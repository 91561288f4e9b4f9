import Grok.Library.Load
import Grok.Proofs.Library.Builtin
import Grok.Proofs.Library.Warnings

namespace Grok

def Event.replacedNames? : Event → Option (List Text)
  | .builtinReplaced names => some names
  | _ => none

namespace Library

variable {config : Config} {tree : FileTree} {base own d : Dictionary} {e : Error}

theorem exists_builtinPart (config : Config) : ∃ base, (builtinPart config).result = .ok base := by
  rw [builtinPart]
  split_ifs
  · obtain ⟨d, hd, -⟩ := builtin_settled
    exact ⟨d, hd⟩
  · exact ⟨∅, rfl⟩

theorem load_of_error (he : (directoryPart config tree).result = .error e) :
    load config tree = ⟨(builtinPart config).events ++ (directoryPart config tree).events, .error e⟩ := by
  obtain ⟨base, hbase⟩ := exists_builtinPart config
  simp only [load, Report.andThen, hbase, he]

theorem load_of_parts (hbase : (builtinPart config).result = .ok base)
    (hown : (directoryPart config tree).result = .ok own) :
    (load config tree).result =
      (if (base.merge own).isEmpty then .error (.load .noPatterns) else .ok (base.merge own)) ∧
    (load config tree).events =
      (builtinPart config).events ++ ((directoryPart config tree).events ++
        ((if (base.common own).isEmpty then [] else [.builtinReplaced (base.common own)]) ++
          if (base.merge own).isEmpty then [] else [.dictionaryLoaded (base.merge own).size])) := by
  simp only [load, Report.andThen, hbase, hown, Report.tellAll]
  split_ifs <;> simp [Report.fail, Report.ofResult, Report.tell, pure]

theorem replacedNames?_of_isWarning {event : Event} (h : event.isWarning = true) :
    event.replacedNames? = none := by
  cases event with
  | builtinReplaced names => cases h
  | _ => rfl

theorem replacedNames?_builtinPart (config : Config) :
    (builtinPart config).events.filterMap Event.replacedNames? = [] := by
  rw [List.filterMap_eq_nil_iff, builtinPart]
  split_ifs
  · intro event hevent
    exact replacedNames?_of_isWarning (PatternFile.isWarning_of_mem_readLines _ _ _ _ event hevent)
  · exact List.forall_mem_nil _

theorem replacedNames?_directoryPart (config : Config) (tree : FileTree) :
    (directoryPart config tree).events.filterMap Event.replacedNames? = [] := by
  rw [List.filterMap_eq_nil_iff, directoryPart]
  split
  · exact List.forall_mem_nil _
  · rw [ofDirectory]
    split
    · exact List.forall_mem_nil _
    · apply Report.forall_events_andThen
      · intro event hevent
        exact replacedNames?_of_isWarning (isWarning_of_mem_readVisits _ _ _ event hevent)
      · exact fun d => List.forall_mem_singleton.mpr rfl

/-- The built-in library can always be read. An error of the directory is the error of the whole, and
two empty sources are refused. Otherwise a name has its definition in the directory if there is one and
its built-in definition if not, and the names that both define, which count once, are told in one event
that lists each of them once; without such names there is no such event. -/
theorem directory_overrides_builtin (config : Config) (tree : FileTree) :
    ∃ base, (builtinPart config).result = .ok base ∧
      (∀ e, (directoryPart config tree).result = .error e → (load config tree).result = .error e ∧
        (load config tree).events.filterMap Event.replacedNames? = []) ∧
      ∀ own, (directoryPart config tree).result = .ok own →
        (base = ∅ → own = ∅ → (load config tree).result = .error (.load .noPatterns)) ∧
        ∃ both : List Text, both.Nodup ∧
          (∀ name, name ∈ both ↔ name ∈ base.names ∧ name ∈ own.names) ∧
          (base ≠ ∅ ∨ own ≠ ∅ → ∃ d, (load config tree).result = .ok d ∧
            (∀ name, d.get? name = (own.get? name).or (base.get? name)) ∧
            d.size + both.length = base.size + own.size) ∧
          (load config tree).events.filterMap Event.replacedNames? =
            if both = [] then [] else [both] := by
  obtain ⟨base, hbase⟩ := exists_builtinPart config
  have hnone := replacedNames?_directoryPart config tree
  refine ⟨base, hbase, fun e he => ?_, fun own hown => ?_⟩
  · rw [load_of_error he, List.filterMap_append, hnone, replacedNames?_builtinPart]
    exact ⟨rfl, rfl⟩
  · obtain ⟨hresult, hevents⟩ := load_of_parts hbase hown
    have hempty : (base.merge own).isEmpty = true ↔ base = ∅ ∧ own = ∅ := by
      rw [Dictionary.isEmpty_iff, Dictionary.merge_eq_empty_iff]
    refine ⟨fun hb ho => ?_, base.common own, Dictionary.nodup_common base own,
      fun name => Dictionary.mem_common_iff, fun hne => ⟨base.merge own, ?_, ?_, ?_⟩, ?_⟩
    · rw [hresult, if_pos (hempty.mpr ⟨hb, ho⟩)]
    · have hsome : ¬(base.merge own).isEmpty = true := by
        rw [hempty]
        tauto
      rw [hresult, if_neg hsome]
    · exact fun name => Dictionary.get?_merge
    · exact Dictionary.size_merge base own
    · rw [hevents, List.filterMap_append, List.filterMap_append, List.filterMap_append, hnone,
        replacedNames?_builtinPart, List.nil_append, List.nil_append]
      have hlast : (if (base.merge own).isEmpty then []
          else [Event.dictionaryLoaded (base.merge own).size]).filterMap Event.replacedNames? = [] := by
        split_ifs <;> rfl
      rw [hlast, List.append_nil]
      simp only [List.isEmpty_iff]
      split_ifs <;> rfl

theorem builtin_name_replaced_and_no_sources_refused :
    let entries : List (Path × FileNode) := [("custom", .file "USER [A-Z]+\nAPP x".toUTF8)]
    let tree : FileTree := ⟨.directory [("p", .directory entries), ("q", .directory [])], []⟩
    (∃ base d, (builtinPart { patternsDir := some "p" }).result = .ok base ∧
      (load { patternsDir := some "p" } tree).result = .ok d ∧
      d.get? "USER" = some ("[A-Z]+" : Text) ∧ d.size = base.size + 1 ∧
      (load { patternsDir := some "p" } tree).events.filterMap Event.replacedNames? =
        [[("USER" : Text)]]) ∧
    (load { patternsDir := some "q", builtinPatterns := false } tree).result =
      .error (.load .noPatterns) ∧
    (load { patternsDir := some "r" } tree).result = .error (.load (.noDirectory "r")) := by
  intro entries tree
  obtain ⟨base, hbase, -, hparts⟩ := directory_overrides_builtin { patternsDir := some "p" } tree
  obtain ⟨empty, hempty, -, hnothing⟩ :=
    directory_overrides_builtin { patternsDir := some "q", builtinPatterns := false } tree
  obtain ⟨-, -, hfails, -⟩ := directory_overrides_builtin { patternsDir := some "r" } tree
  have hown : (directoryPart { patternsDir := some "p" } tree).result =
      .ok (.ofList [("USER", "[A-Z]+"), ("APP", "x")]) := by cbv
  have hnone : (directoryPart { patternsDir := some "q", builtinPatterns := false } tree).result =
      .ok ∅ := by cbv
  have hmissing : (directoryPart { patternsDir := some "r" } tree).result =
      .error (.load (.noDirectory "r")) := by cbv
  have hpart : builtinPart { patternsDir := some "p" } = builtin := if_pos rfl
  have hnames : ∃ d, builtin.result = .ok d ∧
      ("USER" : Text) ∈ d.names ∧ ("APP" : Text) ∉ d.names := builtin_of_spelled (by decide +kernel)
  obtain ⟨d, hd, huser, happ⟩ := hnames
  rw [hpart] at hbase
  obtain rfl : d = base := Except.ok.inj (hd.symm.trans hbase)
  obtain ⟨-, both, hnodup, hmem, hloads, hevents⟩ := hparts _ hown
  have hown : (Dictionary.ofList [("USER", "[A-Z]+"), ("APP", "x")]).names = ["APP", "USER"] := by
    decide
  have hboth : both = [("USER" : Text)] := by
    apply List.perm_singleton.mp
    apply (List.perm_ext_iff_of_nodup hnodup (List.nodup_singleton _)).mpr
    intro name
    rw [hmem, hown, List.mem_singleton]
    constructor
    · rintro ⟨hbuiltin, hname⟩
      rcases List.mem_pair.mp hname with rfl | rfl
      · exact absurd hbuiltin happ
      · rfl
    · rintro rfl
      exact ⟨huser, by decide⟩
  subst hboth
  have hne : Dictionary.ofList [("USER", "[A-Z]+"), ("APP", "x")] ≠ ∅ :=
    fun h => absurd (congrArg Dictionary.size h) (by decide)
  obtain ⟨whole, hwhole, hget, hsize⟩ := hloads (.inr hne)
  refine ⟨⟨d, whole, hpart ▸ hbase, hwhole, by rw [hget]; rfl, ?_, hevents⟩, ?_, (hfails _ hmissing).1⟩
  · exact Nat.succ.inj hsize
  · exact (hnothing ∅ hnone).1 (Except.ok.inj hempty).symm rfl

end Library

end Grok
