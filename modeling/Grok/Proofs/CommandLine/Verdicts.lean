import Grok.CommandLine.Run
import Grok.Proofs.Metric.Acceptance

namespace Grok.CommandLine

inductive Entry where
  | ok (name : Text)
  | fail (name : Text) (cause : Error)

namespace Entry

def text : Entry → Text
  | .ok name => "ok    " ++ name ++ "\n"
  | .fail name cause => "FAIL  " ++ name ++ ": " ++ cause.message ++ "\n"

def isFail : Entry → Bool
  | .ok _ => false
  | .fail .. => true

inductive Of (c : Compiler) (m : MetricDefinition) : Entry → Prop
  | ok {metric : Metric} (h : (Metric.compile c m).result = .ok metric) : Of c m (.ok m.name)
  | fail {e : Error} (h : (Metric.compile c m).result = .error e) : Of c m (.fail m.name e)

end Entry

def entryOf (c : Compiler) (m : MetricDefinition) : Entry :=
  match (Metric.compile c m).result with
  | .ok _ => .ok m.name
  | .error e => .fail m.name e

structure Outcome.Has (o : Outcome) (entries : List Entry) : Prop where
  output : o.output = entries.flatMap Entry.text
  failure : o.failure = if entries.countP Entry.isFail = 0 then none
    else some (.failedMetrics (entries.countP Entry.isFail))

structure MadeFor (libraries : Libraries) (c : Compiler) (i : Invocation) (tree : FileTree) :
    Prop where
  dictionary : (Library.load i.options.config tree).result = .ok c.dictionary
  engine : c.engine = libraries.engine (i.options.dialect.getD .backtracking)
  maxDepth : c.maxDepth = i.options.config.maxDepth

def count32 (c : Compiler) (n : Int32) (m : MetricDefinition) : Int32 :=
  match (Metric.compile c m).result with
  | .ok _ => n
  | .error _ => n + 1

variable {libraries : Libraries} {c : Compiler} {m : MetricDefinition} {ms : List MetricDefinition}
  {t : Tally} {tree : FileTree} {path text : Text} {entries : List Entry} {args : List Text}
  {i : Invocation}

theorem entryOf_spec (c : Compiler) (m : MetricDefinition) : Entry.Of c m (entryOf c m) := by
  rw [entryOf]
  split
  next h => exact .ok h
  next h => exact .fail h

theorem Entry.Of.unique {entry entry' : Entry} (h : Entry.Of c m entry) (h' : Entry.Of c m entry') :
    entry = entry' := by
  cases h with
  | ok h =>
    cases h' with
    | ok h' => rfl
    | fail h' => cases h.symm.trans h'
  | fail h =>
    cases h' with
    | ok h' => cases h.symm.trans h'
    | fail h' =>
      cases h.symm.trans h'
      rfl

theorem verdict_eq (c : Compiler) (m : MetricDefinition) :
    verdict m (Metric.compile c m) = (entryOf c m).text := by
  rw [verdict, entryOf]
  cases (Metric.compile c m).result <;> rfl

theorem output_step (c : Compiler) (t : Tally) (m : MetricDefinition) :
    (t.step c m).output = t.output ++ (entryOf c m).text := by
  rw [Tally.step, verdict_eq]

theorem failed_step (c : Compiler) (t : Tally) (m : MetricDefinition) :
    (t.step c m).failed = t.failed + [entryOf c m].countP Entry.isFail := by
  rw [Tally.step, entryOf]
  cases (Metric.compile c m).result <;> rfl

theorem output_foldl (c : Compiler) (t : Tally) (ms : List MetricDefinition) :
    (ms.foldl (Tally.step c) t).output = t.output ++ (ms.map (entryOf c)).flatMap Entry.text := by
  induction ms generalizing t with
  | nil => simp
  | cons m ms ih => rw [List.foldl_cons, ih, output_step, List.map_cons, List.flatMap_cons,
      List.append_assoc]

theorem failed_foldl (c : Compiler) (t : Tally) (ms : List MetricDefinition) :
    (ms.foldl (Tally.step c) t).failed = t.failed + (ms.map (entryOf c)).countP Entry.isFail := by
  induction ms generalizing t with
  | nil => simp
  | cons m ms ih =>
    rw [List.foldl_cons, ih, failed_step, List.map_cons, List.countP_cons, List.countP_cons,
      List.countP_nil]
    omega

theorem foldl_count32 (c : Compiler) (t : Tally) (ms : List MetricDefinition) :
    ms.foldl (count32 c) (Int32.ofNat t.failed) =
      Int32.ofNat (ms.foldl (Tally.step c) t).failed := by
  induction ms generalizing t with
  | nil => rfl
  | cons m ms ih =>
    have hstep : count32 c (Int32.ofNat t.failed) m = Int32.ofNat (t.step c m).failed := by
      rw [count32, Tally.step]
      cases (Metric.compile c m).result with
      | ok metric => rfl
      | error e => exact (Int32.ofNat_add t.failed 1).symm
    rw [List.foldl_cons, List.foldl_cons, hstep, ih]

/-- A counter of 32 bits tells the same as the tally for fewer than 2^31 definitions. -/
theorem count32_eq_failed (c : Compiler) (h : ms.length < 2 ^ 31) :
    (ms.foldl (count32 c) 0).toInt = (ms.foldl (Tally.step c) {}).failed := by
  have hle : (ms.foldl (Tally.step c) {}).failed ≤ ms.length := by
    rw [failed_foldl, Nat.zero_add]
    exact List.countP_le_length.trans (List.length_map _).le
  rw [← Int32.toInt_ofNat_of_lt (hle.trans_lt h), ← foldl_count32]
  rfl

theorem has_verifyAll (c : Compiler) (ms : List MetricDefinition) :
    (verifyAll c ms).Has (ms.map (entryOf c)) := by
  have hfailed := failed_foldl c {} ms
  rw [Nat.zero_add] at hfailed
  constructor
  · exact output_foldl c {} ms
  · rw [verifyAll, Tally.outcome, hfailed]
    simp only [Nat.pos_iff_ne_zero, ite_not]

theorem verify_eq {refusal : Text → Text} (hread : tree.read path.encoded = .ok text)
    (hdecode : MetricDefinition.listOfText refusal text = .ok ms) :
    verify refusal c tree path = verifyAll c ms := by
  rw [verify, hread]
  simp only [hdecode]

theorem has_run (hc : MadeFor libraries c i tree) (hcommand : i.command = .verify path)
    (h : (verify libraries.refusal c tree path).Has entries) :
    (run libraries i tree).Has entries := by
  have hcompiler : (⟨c.dictionary, libraries.engine (i.options.dialect.getD .backtracking),
      i.options.config.maxDepth⟩ : Compiler) = c := by
    rw [← hc.engine, ← hc.maxDepth]
  have hrun : (run libraries i tree).output = (verify libraries.refusal c tree path).output ∧
      (run libraries i tree).failure = (verify libraries.refusal c tree path).failure := by
    simp only [run, Outcome.ofReport, hc.dictionary, hcommand, hcompiler, and_self]
  exact ⟨hrun.1.trans h.output, hrun.2.trans h.failure⟩

theorem toText_failedMetrics (n : Nat) : (Failure.failedMetrics n).toText =
    "Error: " ++ Text.ofNat n ++ " 个指标校验失败\n" := by
  have hend : (" 个指标校验失败\n" : Text) = (" 个指标校验失败" : Text) ++ ("\n" : Text) := rfl
  have htext : (Failure.failedMetrics n).toText =
      ("Error: " : Text) ++ (Text.ofNat n ++ (" 个指标校验失败" : Text)) ++ [] ++ ("\n" : Text) := rfl
  rw [htext, hend, List.append_nil, List.append_assoc, List.append_assoc, List.append_assoc]

theorem exit_of_has (hparse : parse args = .ok i) (h : (run libraries i tree).Has entries) :
    let e := exit libraries args tree
    e.output = entries.flatMap Entry.text ∧ (e.code = 0 ↔ ∀ entry ∈ entries, entry.isFail = false) ∧
    (e.code ≠ 0 → e.code = 1 ∧ ∃ told, e.errors =
      told ++ ("Error: " ++ Text.ofNat (entries.countP Entry.isFail) ++ " 个指标校验失败\n")) := by
  intro e
  have hnone : entries.countP Entry.isFail = 0 ↔ ∀ entry ∈ entries, entry.isFail = false := by
    simp [List.countP_eq_zero]
  simp only [e]
  rw [exit, hparse, ← toText_failedMetrics, ← hnone]
  dsimp only
  rw [h.failure]
  split_ifs with hfailed
  · exact ⟨h.output, by simp [hfailed], by simp⟩
  · exact ⟨h.output, by simp [hfailed], fun _ => ⟨rfl, _, rfl⟩⟩

/-- Each definition has one entry, by the compiler alone: it tells that the definition can be made into
a metric, or the error of this definition. For a file of definitions the entries are written in their
order. The check succeeds exactly if none of them tells of a failure, and otherwise its error has their
number; this is how the command line ends as well. So the definitions of a file in another order have
the same entries in another order, and another definition in the place of one has another entry in the
place of its entry. -/
theorem definitions_have_entries_of_their_own (libraries : Libraries) (c : Compiler) :
    ∃ entry : MetricDefinition → Entry, (∀ m, Entry.Of c m (entry m)) ∧
      ∀ tree path text ms, FileTree.read tree path.encoded = .ok text →
        MetricDefinition.listOfText libraries.refusal text = .ok ms →
        (verify libraries.refusal c tree path).Has (ms.map entry) ∧
        (∀ args i, parse args = .ok i → i.command = .verify path → MadeFor libraries c i tree →
          (exit libraries args tree).output = (ms.map entry).flatMap Entry.text ∧
          ((exit libraries args tree).code = 0 ↔ ∀ own ∈ ms.map entry, own.isFail = false) ∧
          ((exit libraries args tree).code ≠ 0 → (exit libraries args tree).code = 1 ∧
            ∃ told, (exit libraries args tree).errors = told ++ ("Error: " ++
              Text.ofNat ((ms.map entry).countP Entry.isFail) ++ " 个指标校验失败\n"))) ∧
        ∀ tree' path' text' ms', FileTree.read tree' path'.encoded = .ok text' →
          MetricDefinition.listOfText libraries.refusal text' = .ok ms' →
          (ms'.Perm ms →
            (verify libraries.refusal c tree' path').failure =
              (verify libraries.refusal c tree path).failure ∧
            ∃ entries, entries.Perm (ms.map entry) ∧
              (verify libraries.refusal c tree' path').Has entries) ∧
          ∀ before m m' after, ms = before ++ m :: after → ms' = before ++ m' :: after →
            ∃ first last,
              (verify libraries.refusal c tree path).output = first ++ (entry m).text ++ last ∧
              (verify libraries.refusal c tree' path').output =
                first ++ (entry m').text ++ last := by
  refine ⟨entryOf c, entryOf_spec c, fun tree path text ms hread hdecode => ?_⟩
  have hall := has_verifyAll c ms
  rw [← verify_eq hread hdecode] at hall
  refine ⟨hall, fun args i hparse hcommand hc => exit_of_has hparse (has_run hc hcommand hall),
    fun tree' path' text' ms' hread' hdecode' => ?_⟩
  have hall' := has_verifyAll c ms'
  rw [← verify_eq hread' hdecode'] at hall'
  constructor
  · intro hperm
    have hentries := hperm.map (entryOf c)
    refine ⟨?_, _, hentries, hall'⟩
    rw [hall.failure, hall'.failure, hentries.countP_eq]
  · rintro before m m' after rfl rfl
    refine ⟨(before.map (entryOf c)).flatMap Entry.text, (after.map (entryOf c)).flatMap Entry.text,
      ?_, ?_⟩
    · rw [hall.output]
      simp
    · rw [hall'.output]
      simp

theorem failures_beside_success_are_counted :
    let text := "metrics:\n- name: b\n- name: a\n  match: _\n- name: d\n  match: '%{X}'\n"
    let other := "metrics:\n- name: a\n  match: _\n- name: b\n- name: d\n  match: '%{X}'\n"
    let tree : FileTree := ⟨.directory [("m", .file text.toUTF8), ("n", .file other.toUTF8),
      ("p", .directory [("w", .file "D x".toUTF8)])], []⟩
    let args : List Text := ["--no-embedded", "--patterns-dir", "p", "--engine", "std", "verify", "m"]
    let i : Invocation :=
      ⟨{ patternsDir := some "p", noBuiltin := true, dialect := some .linear }, .verify "m"⟩
    let libraries : Libraries := ⟨Regex.Dialect.terse, fun _ => []⟩
    let c : Compiler := { dictionary := .ofList [("D", "x")], engine := Regex.Dialect.linear.terse }
    let a : MetricDefinition := { name := "a", expression := some "_" }
    let b : MetricDefinition := { name := "b" }
    let d : MetricDefinition := { name := "d", expression := some "%{X}" }
    parse args = .ok i ∧ MadeFor libraries c i tree ∧ tree.read "m" = .ok text ∧ tree.read "n" = .ok other ∧
      MetricDefinition.listOfText libraries.refusal text = .ok [b, a, d] ∧
      MetricDefinition.listOfText libraries.refusal other = .ok [a, b, d] ∧
      (exit libraries args tree).output = "FAIL  b: 配置无效：指标 b 缺少 match 表达式\nok    a\n" ++
        ("FAIL  d: 模式 X 未定义（位于：表达式「%{X}」中的 %{X}）\n" : Text) ∧
      (exit libraries args tree).code = 1 ∧
      (∃ told, (exit libraries args tree).errors = told ++ ("Error: 2 个指标校验失败\n" : Text)) ∧
      (verify libraries.refusal c tree "n").failure = (verify libraries.refusal c tree "m").failure := by
  intro text other tree args i libraries c a b d
  have hparse : parse args = .ok i := rfl
  have hc : MadeFor libraries c i tree := ⟨by cbv, rfl, rfl⟩
  have hread : tree.read "m" = .ok text := by cbv
  have hother : tree.read "n" = .ok other := by cbv
  have hdecode : MetricDefinition.listOfText libraries.refusal text = .ok [b, a, d] := by decide +kernel
  have hdecode' : MetricDefinition.listOfText libraries.refusal other = .ok [a, b, d] := by decide +kernel
  have hregex : (Regex.compile? .linear "_").isSome := by decide +kernel
  obtain ⟨regex, hregex⟩ := Option.isSome_iff_exists.mp hregex
  have hexpand : c.expand "_" = .ok "_" := by cbv
  have hmetric : (Metric.compile c a).result = .ok ⟨a, ⟨"_", regex⟩, rfl⟩ := by
    rw [Metric.result_compile_of_pattern rfl (Compiler.result_compile_of_dialect rfl hexpand hregex)]
    exact Metric.ofParts_eq_ok_iff.mpr ⟨rfl, rfl⟩
  let place : Place := ⟨.expression "%{X}", "%{X}"⟩
  have hundefined : c.expand "%{X}" = .error (.expansion (.undefinedPattern "X" place)) := by cbv
  obtain ⟨entry, hentry, hfiles⟩ := definitions_have_entries_of_their_own libraries c
  have ha : entry a = .ok "a" := (hentry a).unique (.ok hmetric)
  have hb : entry b = .fail "b" (.missingMatch "b") := (hentry b).unique (.fail rfl)
  have hd : entry d = .fail "d" (.expansion (.undefinedPattern "X" place)) :=
    (hentry d).unique (.fail (Metric.Rejected.expansion rfl hundefined).result_compile)
  obtain ⟨-, hexit, hfile⟩ := hfiles tree "m" text _ hread hdecode
  obtain ⟨houtput, hcode, herrors⟩ := hexit args i hparse rfl hc
  have hne : (exit libraries args tree).code ≠ 0 := by
    rw [ne_eq, hcode]
    simp [hb, Entry.isFail]
  obtain ⟨hone, told, htold⟩ := herrors hne
  have hentries : [b, a, d].map entry = [.fail "b" (.missingMatch "b"), .ok "a",
      .fail "d" (.expansion (.undefinedPattern "X" place))] := by
    rw [List.map_cons, List.map_cons, List.map_cons, ha, hb, hd, List.map_nil]
  rw [hentries] at houtput htold
  refine ⟨hparse, hc, hread, hother, hdecode, hdecode', houtput.trans (by decide +kernel), hone,
    ⟨told, htold.trans (congrArg (told ++ ·) (by decide +kernel))⟩,
    ((hfile tree "n" other _ hother hdecode').1 (.swap _ _ _)).1⟩

end Grok.CommandLine
