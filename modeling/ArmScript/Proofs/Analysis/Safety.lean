import Mathlib.Data.List.TakeWhile
import ArmScript.Proofs.Analysis.Sequence
import ArmScript.Proofs.Script.Steps

/-!
A run with all that could go wrong in it. Its steps could give out, a diagnostic could get a code of another stage, and
there could be fewer diagnostics behind it than before it. Whatever the words are, none of this happens, and what the
run leaves is what the words up to the first end of the input tell.
-/
set_option autoImplicit false

namespace ArmScript

/-- The codes that the diagnostic of a fault is given, one after the other. The last one stays. -/
def Fault.codes : Fault → List Code
  | .unexpected _ found | .badHeader _ _ found => [unexpectedCode found]
  | .unknownMethod found => [unexpectedCode found, .e104]
  | .missingValue _ _ _ => [.e102]
  | .unexpectedValue _ _ _ => [.e103]
  | .strayBrace _ => [.e100]
  | .unclosedBlock _ _ => [.e101]

def CallFault.code : CallFault → Code
  | .undeclared _ => .e200
  | .fractional _ _ => .e203
  | .outOfRange _ _ _ => .e202

def Diagnostic.assemble? (stage : Stage) (codes : List Code) (d : Diagnostic) : Option Diagnostic := do
  let coded ← codes.foldlM withCode? (plain stage d.position d.message)
  return { coded with labels := d.labels, help := d.help }

def Event.assemble? (t : RobotTable) : Event → Option (List Diagnostic)
  | .declaration name => match t.declare name.robot with
    | .ok _ => some []
    | .error duplicate => (Diagnostic.assemble? .semantic [.e201] duplicate.diagnostic).map ([·])
  | .call robot method argument =>
    (t.checkCall robot method argument).mapM fun fault =>
      Diagnostic.assemble? .semantic [fault.code] fault.diagnostic
  | .fault cause _ => (Diagnostic.assemble? .grammar cause.codes cause.diagnostic).map ([·])
  | .opened _ | .closed _ => some []

/-- What could stop a run: too few steps, a code of another stage, or fewer diagnostics than before. -/
inductive Mishap where
  | unfinished
  | foreignCode
  | lostDiagnostics
  deriving DecidableEq, Repr

namespace Reading

def happen? (r : Reading) (e : Event) : Option Reading := do
  let found ← e.assemble? r.session.robots
  return ⟨⟨r.session.robots.after e, r.session.diagnostics ++ found⟩,
    r.statements + (if e.isStatement then 1 else 0), r.records ++ e.records r.session.robots⟩

def after (r : Reading) (events : List Event) : Reading where
  session := ⟨r.session.robots.afterAll events,
    r.session.diagnostics ++ collect Event.diagnostics r.session.robots events⟩
  statements := r.statements + countStatements events
  records := r.records ++ collect Event.records r.session.robots events

def close (before : Nat) (r : Reading) : Except Mishap Reading :=
  let now := r.session.diagnostics.length
  if now < before then .error .lostDiagnostics
  else .ok { r with records := r.records ++ [.parsed r.statements (now - before)] }

end Reading

def Reader.run (final : Token) : Nat → Reader → Reading → Except Mishap Reading
  | 0, _, _ => .error .unfinished
  | steps + 1, r, reading =>
    match r.step final with
    | none => .ok reading
    | some (events, next) =>
      match events.foldlM Reading.happen? reading with
      | none => .error .foreignCode
      | some reading => next.run final steps reading

def endWord (tokens : List Token) : Token :=
  match tokens.getLast? with
  | some last => if last.kind = .endOfInput then last else impliedStop tokens
  | none => impliedStop tokens

def Session.readInSteps (s : Session) (steps : Nat) (tokens : List Token) : Except Mishap Reading := do
  let words := significant tokens
  let reading ← (Reader.start words).run (endWord tokens) steps ⟨s, 0, [.parsing words.length]⟩
  reading.close s.diagnostics.length

section Assemble

theorem Diagnostic.foldlM_withCode? {codes : List Code} {d : Diagnostic} (h : ∀ c ∈ codes, c.stage = d.stage) :
    codes.foldlM withCode? d = some { d with code := codes.getLast?.or d.code } := by
  induction codes generalizing d with
  | nil => rfl
  | cons c codes ih =>
    obtain ⟨own, others⟩ := List.forall_mem_cons.mp h
    have first : d.withCode? c = some { d with code := some c } := if_pos own
    have later := @ih { d with code := some c } others
    rw [List.foldlM_cons, first]
    refine later.trans ?_
    cases hl : codes.getLast? <;> simp [List.getLast?_cons, hl]

theorem Diagnostic.assemble?_eq_some {stage : Stage} {codes : List Code} {d : Diagnostic} (hs : d.stage = stage)
    (hc : codes.getLast? = d.code) (own : ∀ c ∈ codes, c.stage = stage) : assemble? stage codes d = some d := by
  obtain ⟨stage', code, message, position, labels, help⟩ := d
  obtain rfl : stage' = stage := hs
  obtain rfl : codes.getLast? = code := hc
  have coded := @foldlM_withCode? codes (plain stage' position message) own
  rw [assemble?, coded]
  simp [plain]

theorem Fault.assemble?_eq_some (cause : Fault) :
    Diagnostic.assemble? .grammar cause.codes cause.diagnostic = some cause.diagnostic := by
  have unexpected : ∀ found : Token, (unexpectedCode found).stage = .grammar := by
    intro found
    unfold unexpectedCode
    split <;> rfl
  refine Diagnostic.assemble?_eq_some cause.stage_diagnostic ?_ ?_
  · cases cause with
    | unexpected wanted found => cases wanted <;> rfl
    | _ => rfl
  · cases cause with
    | unexpected wanted found => simpa [codes] using unexpected found
    | unknownMethod found => simpa [codes, Code.stage] using unexpected found
    | badHeader robot wanted found => simpa [codes] using unexpected found
    | _ => simp [codes, Code.stage]

theorem CallFault.assemble?_eq_some (fault : CallFault) :
    Diagnostic.assemble? .semantic [fault.code] fault.diagnostic = some fault.diagnostic := by
  cases fault <;> exact Diagnostic.assemble?_eq_some rfl rfl (by simp [code, Code.stage])

theorem Event.assemble?_eq_some (t : RobotTable) (e : Event) : e.assemble? t = some (e.diagnostics t) := by
  cases e with
  | declaration name =>
    simp only [assemble?, diagnostics]
    cases t.declare name.robot with
    | ok declared => rfl
    | error duplicate =>
      have assembled : Diagnostic.assemble? .semantic [.e201] duplicate.diagnostic = some duplicate.diagnostic :=
        Diagnostic.assemble?_eq_some rfl rfl (by simp [Code.stage])
      simp [assembled]
  | call robot method argument =>
    simp only [assemble?, CallFault.assemble?_eq_some, diagnostics]
    exact List.mapM_pure
  | fault cause recovery => simp [assemble?, diagnostics, cause.assemble?_eq_some]
  | opened brace => rfl
  | closed brace => rfl

end Assemble

section Run

theorem Reading.after_append (r : Reading) (xs ys : List Event) : (r.after xs).after ys = r.after (xs ++ ys) := by
  simp [after, collect_append, RobotTable.afterAll_append, countStatements_append, Nat.add_assoc]

theorem Reading.foldlM_happen? (r : Reading) (events : List Event) :
    events.foldlM happen? r = some (r.after events) := by
  induction events generalizing r with
  | nil => simp [after, RobotTable.afterAll, collect, countStatements]
  | cons e events ih =>
    have first : r.happen? e = some (r.after [e]) := by
      simp [happen?, e.assemble?_eq_some, after, RobotTable.afterAll, collect, countStatements, List.countP_cons]
    rw [List.foldlM_cons, first]
    exact (ih (r.after [e])).trans (congrArg some (r.after_append [e] events))

theorem Reader.Steps.run {final : Token} {n fuel : Nat} {r last : Reader} {events : List Event}
    (h : Steps final n r events last) (ended : last.step final = none) (allowed : n < fuel) (reading : Reading) :
    r.run final fuel reading = .ok (reading.after events) := by
  induction h generalizing fuel reading with
  | refl r =>
    obtain ⟨fuel, rfl⟩ : ∃ m, fuel = m + 1 := ⟨fuel - 1, by omega⟩
    have none : reading.after [] = reading := by simp [Reading.after, RobotTable.afterAll, collect, countStatements]
    simp only [Reader.run, ended, none]
  | @head n r next last events more first later ih =>
    obtain ⟨fuel, rfl⟩ : ∃ m, fuel = m + 1 := ⟨fuel - 1, by omega⟩
    simp only [Reader.run, first, reading.foldlM_happen? events]
    rw [ih ended (by omega), reading.after_append]

theorem headD_fromEnd (tokens : List Token) :
    (fromEnd (significant tokens)).headD (endWord tokens) = (Script.ofTokens tokens).stop := by
  have found : (fromEnd (significant tokens)).head? = (significant tokens).find? fun t => t.kind == .endOfInput := by
    rw [List.find?_eq_head?_dropWhile_not]
    simp only [fromEnd, bne]
  simp only [List.headD_eq_head?_getD, found, Script.ofTokens]
  cases hf : (significant tokens).find? fun t => t.kind == .endOfInput with
  | some e => rfl
  | none =>
    have absent := List.find?_eq_none.mp hf
    simp only [Option.getD_none, endWord]
    split
    · next last hl =>
      split
      · next ends =>
        have valid : last ∈ significant tokens := List.mem_filter.mpr ⟨List.mem_of_getLast? hl, by simp [ends]⟩
        exact absurd (beq_iff_eq.mpr ends) (absent last valid)
      · rfl
    · rfl

end Run

theorem Script.ofTokens_of_end {e : Token} (he : e.kind = .endOfInput) (before after : List Token) :
    ofTokens (before ++ e :: after) = ofTokens (before ++ [e]) := by
  have valid : ∀ rest, significant (before ++ e :: rest) = significant before ++ e :: significant rest := by
    simp [significant, he]
  have found : ∀ rest, (significant before ++ e :: rest).find? (fun t => t.kind == .endOfInput) =
      some (((significant before).find? fun t => t.kind == .endOfInput).getD e) := by
    intro rest
    rw [List.find?_append]
    cases (significant before).find? fun t => t.kind == .endOfInput <;> simp [he]
  have body : ∀ rest, (significant before ++ e :: rest).takeWhile (fun t => t.kind != .endOfInput) =
      (significant before).takeWhile fun t => t.kind != .endOfInput := beforeEnd_append he (significant before)
  simp only [ofTokens, valid, found, body, Option.getD_some]

namespace Session

theorem close_after (s : Session) (tokens : List Token) :
    (Reading.after ⟨s, 0, [.parsing (significant tokens).length]⟩ (Script.ofTokens tokens).read).close
      s.diagnostics.length = .ok (s.read tokens) := by
  rw [Reading.close, if_neg (by simp [Reading.after])]
  simp [Reading.after, read]

/-- Enough steps are two for each word, and one to find that there is nothing left to do. -/
theorem readInSteps_eq_ok (s : Session) (tokens : List Token) {steps : Nat}
    (allowed : 2 * (significant tokens).length < steps) : s.readInSteps steps tokens = .ok (s.read tokens) := by
  obtain ⟨n, bound, whole⟩ := Reader.exists_steps_start (endWord tokens) (significant tokens)
  have events : readBlocks ((fromEnd (significant tokens)).headD (endWord tokens)) [] (beforeEnd (significant tokens)) =
      (Script.ofTokens tokens).read := by
    rw [headD_fromEnd]
    rfl
  have ended := @Reader.step_ended (endWord tokens) _ (nextKind_fromEnd (significant tokens))
  rw [events] at whole
  have made := whole.run ended (Nat.lt_of_le_of_lt bound allowed) ⟨s, 0, [.parsing (significant tokens).length]⟩
  rw [readInSteps, made]
  exact s.close_after tokens

example : Session.empty.readInSteps 2 [⟨"\x7d", .closeBrace, .start, ⟨0, 1⟩⟩, ⟨"\x7d", .closeBrace, .start, ⟨0, 1⟩⟩] =
    .error .unfinished := by rfl

/--
Whatever the words are, and with whatever end or none, a session reads them to the end, and no more steps are made than
two for each word. No code is put on a diagnostic of another stage, and none is lost that was there before. On its way
the reader takes a word between sentences, recovers before the words are over, is inside of no more blocks than there
are opening braces, and does not take the first end of the input. What stands behind that end changes nothing.
-/
theorem read_in_steps (s : Session) (tokens : List Token) :
    let words := significant tokens
    let final := endWord tokens
    (∀ steps > 2 * words.length, s.readInSteps steps tokens = .ok (s.read tokens)) ∧
      (∀ n events r, Reader.Steps final n (.start words) events r → r.OnCourse final words) ∧
      ∀ before e after, tokens = before ++ e :: after → e.kind = .endOfInput →
        ∀ other, (s.read (before ++ e :: other)).session = (s.read tokens).session ∧
          (s.read (before ++ e :: other)).statements = (s.read tokens).statements := by
  intro words final
  refine ⟨fun steps allowed => s.readInSteps_eq_ok tokens allowed, fun n events r h => h.onCourse, ?_⟩
  intro before e after split he other
  have same : Script.ofTokens (before ++ e :: other) = Script.ofTokens tokens := by
    rw [split, Script.ofTokens_of_end he before other, Script.ofTokens_of_end he before after]
  simp only [read, same, and_self]

end Session

/-- A head whose spellings do not fit its kinds, a comment in it, an end of the input in the middle, and no end. -/
theorem read_in_steps_past_end :
    let head : List Token := [⟨"\x7d", .identifier, ⟨1, 1⟩, ⟨0, 1⟩⟩, ⟨"r", .dot, ⟨5, 2⟩, ⟨8, 3⟩⟩,
      ⟨"", .method .repetir, ⟨1, 2⟩, ⟨1, 1⟩⟩, ⟨"9", .comment, ⟨1, 1⟩, ⟨0, 1⟩⟩]
    let stop : Token := ⟨"Robot", .endOfInput, ⟨9, 9⟩, ⟨7, 3⟩⟩
    let brace : Token := ⟨".", .openBrace, .start, ⟨0, 0⟩⟩
    let tokens := head ++ stop :: [brace]
    Session.empty.readInSteps 13 tokens = .ok (Session.empty.read tokens) ∧
      (Session.empty.read (head ++ [stop])).session = (Session.empty.read tokens).session := by
  intro head stop brace tokens
  obtain ⟨finishes, -, same⟩ := Session.empty.read_in_steps tokens
  exact ⟨finishes 13 (by decide), (same head stop [brace] rfl rfl []).1⟩

end ArmScript
