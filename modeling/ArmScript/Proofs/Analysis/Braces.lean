import ArmScript.Proofs.Analysis.Added
import ArmScript.Proofs.Script.Openers

/-!
What a run says about braces. The open blocks are a stack: a closing brace that meets it empty is reported there
and then, and what is left on it is reported from the innermost block outwards, behind everything else.
-/
set_option autoImplicit false

namespace ArmScript

def Diagnostic.isOfStrayBrace (d : Diagnostic) : Bool := d.message == "unexpected `\x7d` outside of a block"

def Diagnostic.isOfOpenBlock (d : Diagnostic) : Bool :=
  d.message == "unclosed block: expected `\x7d`, found end of input"

def Diagnostic.isOfBrace (d : Diagnostic) : Bool := d.isOfStrayBrace || d.isOfOpenBlock

section Message
variable {d : Diagnostic} {c : Char}

theorem head?_toList_append {a b : String} (h : a.toList.head? = some c) : (a ++ b).toList.head? = some c := by
  rw [String.toList_append, List.head?_append, h]
  rfl

/-- Both messages about braces start with one letter, which no other message starts with. -/
theorem Diagnostic.isOfBrace_eq_false (h : d.message.toList.head? = some c) (hc : c ≠ 'u') :
    d.isOfBrace = false := by
  have other : ∀ text : String, text.toList.head? = some 'u' → (d.message == text) = false := by
    intro text start
    rw [beq_eq_false_iff_ne]
    rintro rfl
    exact hc (Option.some.inj (h.symm.trans start))
  rw [isOfBrace, isOfStrayBrace, isOfOpenBlock, other _ rfl, other _ rfl]
  rfl

end Message

theorem Fault.isOfBrace_diagnostic (cause : Fault) : cause.diagnostic.isOfBrace = !cause.isOfSentence := by
  have expected : ∀ (code : Code) (wanted : Wanted) (found : Token) (help : Option String),
      (unexpectedDiagnostic code wanted found help).isOfBrace = false := fun _ _ _ _ =>
    Diagnostic.isOfBrace_eq_false (head?_toList_append (head?_toList_append (head?_toList_append rfl)))
      (by decide : 'e' ≠ 'u')
  have method : ∀ {d : Diagnostic} {name rest : String}, d.message = "method `" ++ name ++ rest →
      d.isOfBrace = false := fun h =>
    Diagnostic.isOfBrace_eq_false (h ▸ head?_toList_append (head?_toList_append rfl)) (by decide : 'm' ≠ 'u')
  cases cause with
  | unexpected wanted found => cases wanted <;> exact expected _ _ _ _
  | unknownMethod found => exact expected _ _ _ _
  | badHeader robot wanted found => exact expected _ _ _ _
  | missingValue robot m name => exact method rfl
  | unexpectedValue robot m found => exact method rfl
  | strayBrace brace => rfl
  | unclosedBlock brace stop => rfl

theorem CallFault.isOfBrace_diagnostic (fault : CallFault) : fault.diagnostic.isOfBrace = false := by
  cases fault with
  | undeclared robot =>
    exact Diagnostic.isOfBrace_eq_false (head?_toList_append (head?_toList_append rfl)) (by decide : 'r' ≠ 'u')
  | fractional m argument =>
    exact Diagnostic.isOfBrace_eq_false
      (head?_toList_append (head?_toList_append (head?_toList_append (head?_toList_append rfl))))
      (by decide : 'm' ≠ 'u')
  | outOfRange m range argument =>
    exact Diagnostic.isOfBrace_eq_false
      (head?_toList_append (head?_toList_append (head?_toList_append (head?_toList_append (head?_toList_append
        (head?_toList_append rfl)))))) (by decide : 'v' ≠ 'u')

theorem DuplicateRobot.isOfBrace_diagnostic (d : DuplicateRobot) : d.diagnostic.isOfBrace = false :=
  Diagnostic.isOfBrace_eq_false
    (head?_toList_append (head?_toList_append (head?_toList_append (head?_toList_append rfl))))
    (by decide : 'r' ≠ 'u')

theorem Event.filter_isOfBrace (t : RobotTable) (e : Event) :
    (e.diagnostics t).filter Diagnostic.isOfBrace =
      ((e.fault?.filter fun cause => !cause.isOfSentence).map Fault.diagnostic).toList := by
  cases e with
  | declaration name =>
    simp only [diagnostics]
    cases t.declare name.robot with
    | ok declared => rfl
    | error duplicate => simp [fault?, duplicate.isOfBrace_diagnostic]
  | call robot method argument => simp [diagnostics, fault?, CallFault.isOfBrace_diagnostic]
  | fault cause recovery =>
    cases h : cause.isOfSentence <;> simp [diagnostics, fault?, cause.isOfBrace_diagnostic, h, Option.filter]
  | opened brace => rfl
  | closed brace => rfl

theorem filter_isOfBrace_collect (t : RobotTable) (events : List Event) :
    (collect Event.diagnostics t events).filter Diagnostic.isOfBrace =
      ((events.filterMap Event.fault?).filter fun cause => !cause.isOfSentence).map Fault.diagnostic := by
  rw [collect_filter]
  simp only [Event.filter_isOfBrace, collect_const]
  induction events with
  | nil => rfl
  | cons e events ih =>
    cases h : e.fault? with
    | none => simp [h, ih]
    | some cause =>
      rw [List.flatMap_cons, ih, List.filterMap_cons_some h, h, Option.filter_some, List.filter_cons]
      cases cause.isOfSentence <;> rfl

theorem Reads.isOfSentence {ts : List Token} {sentence : Sentence} (h : Reads ts sentence) :
    ∀ cause ∈ sentence.events.filterMap Event.fault?, cause.isOfSentence = true := by
  cases h with
  | complete complete =>
    have faultless : sentence.events.filterMap Event.fault? = [] :=
      List.filterMap_eq_nil_iff.mpr complete.no_fault
    simp [faultless]
  | brokenHeader head hc incomplete =>
    have opened : ∀ block : Option Token, (block.toList.map Event.opened).filterMap Event.fault? = [] := by
      rintro (_ | brace) <;> rfl
    simp [Sentence.ofHeader, Event.fault?, opened, hc]
  | broken hc incomplete headless => simp [Event.fault?, hc]

/-- Blocks that are open at the end are reported last. All other faults that are not of a sentence are those of
the braces that close nothing. -/
theorem exists_readBlocks_eq_append (stop : Token) (blocks ts : List Token) :
    ∃ events, readBlocks stop blocks ts = events ++
        (pairBraces blocks (marked ts)).2.map (fun brace => .fault (.unclosedBlock brace stop) none) ∧
      (events.filterMap Event.fault?).filter (fun cause => !cause.isOfSentence) =
        (pairBraces blocks (marked ts)).1.map .strayBrace := by
  fun_induction readBlocks stop blocks ts with
  | case1 blocks => exact ⟨[], rfl, rfl⟩
  | case2 t ts hc ih =>
    obtain ⟨events, split, strays⟩ := ih
    rw [marked_closeBrace hc, pairBraces_stray (by simp) hc]
    exact ⟨.fault (.strayBrace t) none :: events, congrArg _ split, congrArg (Fault.strayBrace t :: ·) strays⟩
  | case3 t ts hc brace outer ih =>
    obtain ⟨events, split, strays⟩ := ih
    rw [marked_closeBrace hc, pairBraces_closed (by simp) hc]
    exact ⟨.closed t :: events, congrArg _ split, strays⟩
  | case4 blocks t ts hc sentence ih =>
    obtain ⟨mark, inner, cuts⟩ : ∃ mark inner, CutsOff t ts sentence mark inner := exists_cutsOff stop hc
    obtain ⟨events, split, strays⟩ := ih
    have own : (sentence.events.filterMap Event.fault?).filter (fun cause => !cause.isOfSentence) = [] := by
      have reads : Reads (t :: ts) sentence := reads_readStatement stop t ts
      simpa [List.filter_eq_nil_iff] using reads.isOfSentence
    rw [cuts.pairBraces_marked]
    refine ⟨sentence.events ++ events, ?_, ?_⟩
    · rw [split, List.append_assoc]
    · rw [List.filterMap_append, List.filter_append, own, strays]
      rfl

section Added
variable (s : Session) (tokens : List Token)

theorem Session.filter_isOfBrace_added :
    let script := Script.ofTokens tokens
    let braces := pairBraces [] (marked script.body)
    let unclosed := braces.2.map fun brace => (Fault.unclosedBlock brace script.stop).diagnostic
    (∃ earlier, s.added tokens = earlier ++ unclosed) ∧
      (s.added tokens).filter Diagnostic.isOfBrace =
        braces.1.map (fun brace => (Fault.strayBrace brace).diagnostic) ++ unclosed := by
  intro script braces unclosed
  obtain ⟨events, split, strays⟩ := exists_readBlocks_eq_append script.stop [] script.body
  have last : ∀ t, collect Event.diagnostics t
      (braces.2.map fun brace => .fault (.unclosedBlock brace script.stop) none) = unclosed := by
    intro t
    simp only [unclosed]
    induction braces.2 with
    | nil => rfl
    | cons brace blocks ih => exact congrArg (_ :: ·) ih
  have added : s.added tokens = collect Event.diagnostics s.robots events ++ unclosed := by
    rw [s.added_eq, Script.read, split, collect_append, last]
  have kept : unclosed.filter Diagnostic.isOfBrace = unclosed :=
    List.filter_eq_self.mpr (List.forall_mem_map.mpr fun _ _ => rfl)
  refine ⟨⟨_, added⟩, ?_⟩
  rw [added, List.filter_append, kept, filter_isOfBrace_collect, strays, List.map_map]
  rfl

theorem Session.filter_added_of_isOfBrace {p : Diagnostic → Bool} (hp : ∀ d, p d = true → d.isOfBrace = true) :
    (s.added tokens).filter p = ((s.added tokens).filter Diagnostic.isOfBrace).filter p := by
  rw [List.filter_filter]
  congr 1
  funext d
  cases h : p d with
  | false => rfl
  | true => rw [hp d h]; rfl

theorem Session.filter_isOfStrayBrace_added :
    let script := Script.ofTokens tokens
    (s.added tokens).filter Diagnostic.isOfStrayBrace =
      (pairBraces [] (marked script.body)).1.map fun brace => (Fault.strayBrace brace).diagnostic := by
  intro script
  rw [s.filter_added_of_isOfBrace tokens fun d h => by simp [Diagnostic.isOfBrace, h],
    (s.filter_isOfBrace_added tokens).2, List.filter_append,
    List.filter_eq_self.mpr (List.forall_mem_map.mpr fun _ _ => rfl),
    List.filter_eq_nil_iff.mpr (List.forall_mem_map.mpr fun _ _ => Bool.false_ne_true), List.append_nil]

theorem Session.filter_isOfOpenBlock_added :
    let script := Script.ofTokens tokens
    (s.added tokens).filter Diagnostic.isOfOpenBlock =
      (pairBraces [] (marked script.body)).2.map fun brace => (Fault.unclosedBlock brace script.stop).diagnostic := by
  intro script
  rw [s.filter_added_of_isOfBrace tokens fun d h => by simp [Diagnostic.isOfBrace, h],
    (s.filter_isOfBrace_added tokens).2, List.filter_append,
    List.filter_eq_nil_iff.mpr (List.forall_mem_map.mpr fun _ _ => Bool.false_ne_true),
    List.filter_eq_self.mpr (List.forall_mem_map.mpr fun _ _ => rfl), List.nil_append]

end Added

/-- The braces that open blocks and those that close them pair up as on a stack. Each closing brace that meets the stack
empty has one diagnostic, in the order of the braces. Each opener left on the stack has one, the innermost first: it
points at the end of the words and, second, at the opener, and all of them come behind every other diagnostic of the
run. -/
theorem Session.braces_of_words (s : Session) (tokens : List Token) :
    let valid := tokens.filter fun t => t.kind != .invalid
    let words := valid.takeWhile fun t => t.kind != .endOfInput
    let stop := (valid.find? fun t => t.kind == .endOfInput).getD (match tokens.getLast? with
      | some last => ⟨"", .endOfInput, last.position, ⟨last.span.stop, last.span.stop⟩⟩
      | none => ⟨"", .endOfInput, ⟨1, 1⟩, ⟨0, 0⟩⟩)
    let marks := marked words
    let braces := pairBraces [] marks
    let strays := (s.added tokens).filter Diagnostic.isOfStrayBrace
    let unclosed := (s.added tokens).filter Diagnostic.isOfOpenBlock
    let places := fun d : Diagnostic => (d.position, d.labels.map fun label => (label.span, label.isPrimary))
    marks.map Prod.fst = words ∧
      (∀ before brace after, words = before ++ brace :: after →
        (marks[before.length]? = some (brace, .opener) ↔ Opens before brace)) ∧
      strays = braces.1.map (fun brace => (Fault.strayBrace brace).diagnostic) ∧
      strays.map places = braces.1.map (fun brace => (brace.position, [(brace.span, true)])) ∧
      unclosed = braces.2.map (fun brace => (Fault.unclosedBlock brace stop).diagnostic) ∧
      unclosed.map places =
        braces.2.map (fun brace => (stop.position, [(stop.span, true), (brace.span, false)])) ∧
      ∃ earlier, s.added tokens = earlier ++ unclosed := by
  intro valid words stop marks braces strays unclosed places
  have script : Script.ofTokens tokens = ⟨words, stop⟩ := rfl
  obtain ⟨⟨earlier, split⟩, -⟩ := s.filter_isOfBrace_added tokens
  have stray : strays = braces.1.map (fun brace => (Fault.strayBrace brace).diagnostic) := by
    simp only [strays]
    rw [s.filter_isOfStrayBrace_added, script]
  have left : unclosed = braces.2.map (fun brace => (Fault.unclosedBlock brace stop).diagnostic) := by
    simp only [unclosed]
    rw [s.filter_isOfOpenBlock_added, script]
  refine ⟨map_fst_marked words, fun before brace after split => ?_, stray, ?_, left, ?_, earlier, ?_⟩
  · simp only [marks]
    rw [split]
    exact marked_eq_opener_iff before after brace
  · rw [stray, List.map_map]
    rfl
  · rw [left, List.map_map]
    rfl
  · rw [left]
    exact split

end ArmScript
