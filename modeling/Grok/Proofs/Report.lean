import Grok.Report
import Mathlib

namespace Grok.Report

variable {α β : Type} {r : Report α} {a : α}

theorem result_andThen (r : Report α) (f : α → Report β) :
    (r.andThen f).result = r.result.bind fun a => (f a).result := by
  unfold andThen
  cases r.result <;> rfl

theorem events_andThen_of_ok (h : r.result = .ok a) (f : α → Report β) :
    (r.andThen f).events = r.events ++ (f a).events := by
  rw [andThen, h]

theorem forall_events_andThen {P : Event → Prop} {f : α → Report β}
    (hr : ∀ event ∈ r.events, P event) (hf : ∀ a, ∀ event ∈ (f a).events, P event) :
    ∀ event ∈ (r.andThen f).events, P event := by
  rw [andThen]
  cases r.result with
  | error e => exact hr
  | ok a => exact List.forall_mem_append.mpr ⟨hr, hf a⟩

def warnings (r : Report α) : List Event := r.events.filter Event.isWarning

theorem warnings_andThen_of_ok (h : r.result = .ok a) (f : α → Report β) :
    (r.andThen f).warnings = r.warnings ++ (f a).warnings := by
  rw [warnings, events_andThen_of_ok h, List.filter_append]
  rfl

end Grok.Report
