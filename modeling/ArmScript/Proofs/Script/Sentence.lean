import ArmScript.Script.Reader

/-!
What reading one sentence comes to. Either the words start with a complete sentence, and reading goes on right
behind it, or the sentence is one fault, and reading goes on where recovery leads from the words behind the first
one. Nothing that reading takes before it fails is a place where recovery would have stopped.
-/
set_option autoImplicit false

namespace ArmScript

structure CallHead (robot dot name : Token) (method : Method) : Prop where
  robot : robot.kind = .identifier
  dot : dot.kind = .dot
  name : name.kind = .method method

structure Enclosed (opening number closing : Token) : Prop where
  opening : opening.kind = .openParen
  number : number.kind = .number
  closing : closing.kind = .closeParen

/-- The complete sentences that words can start with, and what each leaves behind. The sentence of a block ends
with the brace that opens it. -/
inductive Complete : List Token → Sentence → Prop where
  | declaration {keyword name : Token} {rest : List Token} (hk : keyword.kind = .robot)
      (hn : name.kind = .identifier) : Complete (keyword :: name :: rest) ⟨[.declaration name], none, rest⟩
  | assignment {robot dot name sign number : Token} {method : Method} {rest : List Token}
      (head : CallHead robot dot name method) (arity : method.signature.arity = .unary)
      (plain : method ≠ .repetir) (hs : sign.kind = .equals) (hn : number.kind = .number) :
      Complete (robot :: dot :: name :: sign :: number :: rest)
        ⟨[.call robot method (some number)], none, rest⟩
  | valueCall {robot dot name opening number closing : Token} {method : Method} {rest : List Token}
      (head : CallHead robot dot name method) (arity : method.signature.arity = .unary)
      (plain : method ≠ .repetir) (value : Enclosed opening number closing) :
      Complete (robot :: dot :: name :: opening :: number :: closing :: rest)
        ⟨[.call robot method (some number)], none, rest⟩
  | bareCall {robot dot name : Token} {method : Method} {rest : List Token}
      (head : CallHead robot dot name method) (arity : method.signature.arity = .nullary)
      (ho : nextKind rest ≠ .openParen) (he : nextKind rest ≠ .equals) :
      Complete (robot :: dot :: name :: rest) ⟨[.call robot method none], none, rest⟩
  | emptyCall {robot dot name opening closing : Token} {method : Method} {rest : List Token}
      (head : CallHead robot dot name method) (arity : method.signature.arity = .nullary)
      (ho : opening.kind = .openParen) (hc : closing.kind = .closeParen) :
      Complete (robot :: dot :: name :: opening :: closing :: rest) ⟨[.call robot method none], none, rest⟩
  | header {robot dot name opening number closing brace : Token} {rest : List Token}
      (head : CallHead robot dot name .repetir) (value : Enclosed opening number closing)
      (hb : brace.kind = .openBrace) :
      Complete (robot :: dot :: name :: opening :: number :: closing :: brace :: rest)
        ⟨[.call robot .repetir (some number), .opened brace], some brace, rest⟩

def Fault.isOfSentence : Fault → Bool
  | .strayBrace _ | .unclosedBlock _ _ => false
  | _ => true

def Fault.place : Fault → Token
  | .unexpected _ found | .unknownMethod found | .badHeader _ _ found | .unexpectedValue _ _ found => found
  | .missingValue _ _ name => name
  | .strayBrace brace => brace
  | .unclosedBlock _ stop => stop

def TokenKind.isPassedOver (k : TokenKind) : Bool :=
  k != .robot && k != .closeBrace && k != .identifier && k != .openBrace

theorem resume_cons {t : Token} {ts : List Token} {k : TokenKind} (ht : t.kind = k) (hk : k.isPassedOver = true) :
    resume (t :: ts) = resume ts := by
  simp only [TokenKind.isPassedOver, Bool.and_eq_true, bne_iff_ne, ← ht] at hk
  simp [resume, isBoundary, hk]

theorem findBlock_cons {t : Token} {ts : List Token} {k : TokenKind} (ht : t.kind = k)
    (hk : k.isPassedOver = true) : findBlock (t :: ts) = findBlock ts := by
  simp only [TokenKind.isPassedOver, Bool.and_eq_true, bne_iff_ne, ← ht] at hk
  simp [findBlock, isBoundary, hk]

/-- A sentence broke off in the given words, and recovery finds what it would have found at the first of them. -/
structure BreaksIn (ts : List Token) (broken : Broken) : Prop where
  fault : broken.fault.isOfSentence = true
  resume : resume broken.rest = resume ts
  findBlock : findBlock broken.rest = findBlock ts

theorem BreaksIn.cons {t : Token} {ts : List Token} {broken : Broken} {k : TokenKind} (h : BreaksIn ts broken)
    (ht : t.kind = k) (hk : k.isPassedOver = true) : BreaksIn (t :: ts) broken :=
  ⟨h.fault, by rw [resume_cons ht hk, h.resume], by rw [findBlock_cons ht hk, h.findBlock]⟩

theorem BreaksIn.here {fault : Fault} (h : fault.isOfSentence = true) (ts : List Token) :
    BreaksIn ts ⟨fault, ts⟩ := ⟨h, rfl, rfl⟩

/-- A sentence broke off in the given words, with others taken before them. Recovery passes over those that were read,
and the fault points at a word that was taken by then or at the next one. -/
def BreaksOff (taken : List Token) (stop : Token) (ts : List Token) (broken : Broken) : Prop :=
  broken.fault.isOfSentence = true ∧ ∃ read, ts = read ++ broken.rest ∧
    (∀ t ∈ read, t.kind.isPassedOver = true) ∧ broken.fault.place ∈ taken ++ read ++ [broken.rest.headD stop]

section BreaksOff
variable {taken ts : List Token} {stop t : Token} {fault : Fault} {broken : Broken}

theorem BreaksOff.next (h : fault.isOfSentence = true) (hp : fault.place = ts.headD stop) :
    BreaksOff taken stop ts ⟨fault, ts⟩ := ⟨h, [], rfl, by simp, by simp [hp]⟩

theorem BreaksOff.back (h : fault.isOfSentence = true) (hp : fault.place ∈ taken) :
    BreaksOff taken stop ts ⟨fault, ts⟩ := ⟨h, [], rfl, by simp, by simp [hp]⟩

theorem BreaksOff.cons {k : TokenKind} (h : BreaksOff (taken ++ [t]) stop ts broken) (ht : t.kind = k)
    (hk : k.isPassedOver = true) : BreaksOff taken stop (t :: ts) broken := by
  obtain ⟨own, read, rfl, passed, place⟩ := h
  exact ⟨own, t :: read, rfl, List.forall_mem_cons.mpr ⟨ht ▸ hk, passed⟩, by simpa using place⟩

theorem BreaksOff.breaksIn (h : BreaksOff taken stop ts broken) : BreaksIn ts broken := by
  obtain ⟨own, read, rfl, passed, -⟩ := h
  induction read with
  | nil => exact .here own broken.rest
  | cons t read ih =>
    obtain ⟨first, later⟩ := List.forall_mem_cons.mp passed
    exact (ih later).cons rfl first

end BreaksOff

theorem exists_cons_of_nextKind {ts : List Token} {k : TokenKind} (h : nextKind ts = k) (hk : k ≠ .endOfInput) :
    ∃ t rest, ts = t :: rest ∧ t.kind = k := by
  cases ts with
  | nil => exact absurd h.symm hk
  | cons t rest => exact ⟨t, rest, rfl, h⟩

section Words
variable {kind : TokenKind} {fault : Token → Fault} {robot dot name stop t : Token} {method : Method}
  {taken ts rest : List Token} {broken : Broken}

theorem expect_ok {u : Token} (h : expect kind fault stop ts = .ok (u, rest)) : ts = u :: rest ∧ u.kind = kind := by
  cases ts with
  | nil => simp [expect] at h
  | cons t ts =>
    by_cases hk : t.kind = kind
    · simp only [expect, hk, if_pos, Except.ok.injEq, Prod.mk.injEq] at h
      obtain ⟨rfl, rfl⟩ := h
      exact ⟨rfl, hk⟩
    · simp [expect, hk] at h

theorem expect_breaksOff (hf : ∀ u, (fault u).isOfSentence = true ∧ (fault u).place = u)
    (h : expect kind fault stop ts = .error broken) : BreaksOff taken stop ts broken := by
  cases ts with
  | nil =>
    simp only [expect, Except.error.injEq] at h
    exact h ▸ .next (hf stop).1 (hf stop).2
  | cons t ts =>
    by_cases hk : t.kind = kind
    · simp [expect, hk] at h
    · simp only [expect, hk, if_false, Except.error.injEq] at h
      exact h ▸ .next (hf t).1 (hf t).2

theorem readValue_ok {number : Token} (h : readValue robot method name stop ts = .ok (number, rest)) :
    (∃ sign, ts = sign :: number :: rest ∧ sign.kind = .equals ∧ number.kind = .number) ∨
      ∃ opening closing, ts = opening :: number :: closing :: rest ∧ Enclosed opening number closing := by
  unfold readValue at h
  split at h
  · next here =>
    obtain ⟨sign, ts, rfl, hs⟩ := exists_cons_of_nextKind here (by simp)
    obtain ⟨ht, hn⟩ := expect_ok h
    exact .inl ⟨sign, congrArg (sign :: ·) ht, hs, hn⟩
  · next here =>
    obtain ⟨opening, ts, rfl, ho⟩ := exists_cons_of_nextKind here (by simp)
    split at h
    · simp at h
    · split at h
      · simp at h
      · next argument behind found =>
        obtain ⟨ht, hn⟩ := expect_ok found
        split at h
        · simp at h
        · next closing after close =>
          obtain ⟨rfl, hc⟩ := expect_ok close
          simp only [Except.ok.injEq, Prod.mk.injEq] at h
          obtain ⟨rfl, rfl⟩ := h
          exact .inr ⟨opening, closing, congrArg (opening :: ·) ht, ho, hn, hc⟩
  · simp at h

theorem readValue_breaksOff (named : name ∈ taken) (h : readValue robot method name stop ts = .error broken) :
    BreaksOff taken stop ts broken := by
  unfold readValue at h
  split at h
  · next here =>
    obtain ⟨sign, ts, rfl, hs⟩ := exists_cons_of_nextKind here (by simp)
    exact (expect_breaksOff (fun _ => ⟨rfl, rfl⟩) h).cons hs rfl
  · next here =>
    obtain ⟨opening, ts, rfl, ho⟩ := exists_cons_of_nextKind here (by simp)
    split at h
    · cases h
      exact (BreaksOff.back rfl (List.mem_append_left _ named)).cons ho rfl
    · split at h
      · next missing =>
        cases h
        exact (expect_breaksOff (fun _ => ⟨rfl, rfl⟩) missing).cons ho rfl
      · next argument behind found =>
        obtain ⟨ht, hn⟩ := expect_ok found
        obtain rfl : ts = argument :: behind := ht
        split at h
        · next unclosed =>
          cases h
          exact ((expect_breaksOff (fun _ => ⟨rfl, rfl⟩) unclosed).cons hn rfl).cons ho rfl
        · simp at h
  · cases h
    exact .back rfl named

theorem readNoValue_ok (h : readNoValue robot method stop ts = .ok rest) :
    (ts = rest ∧ nextKind rest ≠ .openParen ∧ nextKind rest ≠ .equals) ∨
      ∃ opening closing, ts = opening :: closing :: rest ∧ opening.kind = .openParen ∧
        closing.kind = .closeParen := by
  unfold readNoValue at h
  split at h
  · next here =>
    obtain ⟨opening, ts, rfl, ho⟩ := exists_cons_of_nextKind here (by simp)
    split at h
    · next close =>
      obtain ⟨closing, ts, rfl, hc⟩ := exists_cons_of_nextKind close (by simp)
      cases h
      exact .inr ⟨opening, closing, rfl, ho, hc⟩
    · simp at h
    · simp at h
  · simp at h
  · next ho he =>
    cases h
    exact .inl ⟨rfl, ho, he⟩

theorem readNoValue_breaksOff (h : readNoValue robot method stop ts = .error broken) :
    BreaksOff taken stop ts broken := by
  unfold readNoValue at h
  split at h
  · next here =>
    obtain ⟨opening, ts, rfl, ho⟩ := exists_cons_of_nextKind here (by simp)
    split at h
    · simp at h
    · cases h
      exact (BreaksOff.next rfl rfl).cons ho rfl
    · cases h
      exact (BreaksOff.next rfl rfl).cons ho rfl
  · cases h
    exact .next rfl rfl
  · simp at h

/-- A header with its count, or the brace alone where the count belongs. -/
theorem readHeader_ok {sentence : Sentence} (h : readHeader robot name stop ts = .ok sentence) :
    (∃ opening count closing brace rest, ts = opening :: count :: closing :: brace :: rest ∧
        Enclosed opening count closing ∧ brace.kind = .openBrace ∧
        sentence = ⟨[.call robot .repetir (some count), .opened brace], some brace, rest⟩) ∨
      ∃ brace rest, ts = brace :: rest ∧ brace.kind = .openBrace ∧
        sentence = ⟨[.fault (.missingValue robot .repetir name) none, .opened brace], some brace, rest⟩ := by
  unfold readHeader at h
  split at h
  · next here =>
    split at h
    · simp at h
    · next count behind value =>
      split at h
      · simp at h
      · next brace after brought =>
        obtain ⟨rfl, hb⟩ := expect_ok brought
        cases h
        rcases readValue_ok value with ⟨sign, rfl, hs, hn⟩ | ⟨opening, closing, rfl, enclosed⟩
        · exact absurd (hs.symm.trans here) (by simp)
        · exact .inl ⟨opening, count, closing, brace, after, rfl, enclosed, hb, rfl⟩
  · simp at h
  · next here =>
    obtain ⟨brace, ts, rfl, hb⟩ := exists_cons_of_nextKind here (by simp)
    cases h
    exact .inr ⟨brace, ts, rfl, hb, rfl⟩
  · simp at h

theorem readHeader_breaksOff (named : name ∈ taken) (h : readHeader robot name stop ts = .error broken) :
    BreaksOff taken stop ts broken := by
  unfold readHeader at h
  split at h
  · next here =>
    split at h
    · next value =>
      cases h
      exact readValue_breaksOff named value
    · next count behind value =>
      split at h
      · next unopened =>
        cases h
        rcases readValue_ok value with ⟨sign, rfl, hs, hn⟩ | ⟨opening, closing, rfl, enclosed⟩
        · exact absurd (hs.symm.trans here) (by simp)
        · have inner : ∀ taken, BreaksOff taken stop behind broken := fun _ =>
            expect_breaksOff (fun _ => ⟨rfl, rfl⟩) unopened
          exact (((inner _).cons enclosed.closing rfl).cons enclosed.number rfl).cons enclosed.opening rfl
      · simp at h
  · cases h
    exact .next rfl rfl
  · simp at h
  · cases h
    exact .back rfl named

end Words

/-- What a header that is not complete leaves behind: a fault, and its block if recovery finds the brace. -/
def Sentence.ofHeader (cause : Fault) (recovery : Option Recovery) (ts : List Token) : Sentence :=
  ⟨.fault cause recovery :: (findBlock ts).1.toList.map .opened, (findBlock ts).1, (findBlock ts).2⟩

inductive Reads : List Token → Sentence → Prop where
  | complete {ts : List Token} {sentence : Sentence} (h : Complete ts sentence) : Reads ts sentence
  | brokenHeader {robot dot name : Token} {ts : List Token} {cause : Fault} {recovery : Option Recovery}
      (head : CallHead robot dot name .repetir) (hc : cause.isOfSentence = true)
      (incomplete : ∀ sentence, ¬Complete (robot :: dot :: name :: ts) sentence) :
      Reads (robot :: dot :: name :: ts) (.ofHeader cause recovery ts)
  | broken {t : Token} {ts : List Token} {cause : Fault} (hc : cause.isOfSentence = true)
      (incomplete : ∀ sentence, ¬Complete (t :: ts) sentence)
      (headless : ∀ dot name rest, ts = dot :: name :: rest → ¬CallHead t dot name .repetir) :
      Reads (t :: ts) ⟨[.fault cause (some .statement)], none, resume ts⟩

theorem readRepeat_eq {robot dot name stop : Token} {ts : List Token} (head : CallHead robot dot name .repetir) :
    Complete (robot :: dot :: name :: ts) (readRepeat robot name stop ts) ∨
      ∃ cause recovery, cause.isOfSentence = true ∧
        readRepeat robot name stop ts = .ofHeader cause recovery ts := by
  unfold readRepeat
  split
  · next sentence header =>
    rcases readHeader_ok header with
      ⟨opening, count, closing, brace, rest, rfl, value, hb, rfl⟩ | ⟨brace, rest, rfl, hb, rfl⟩
    · exact .inl (.header head value hb)
    · exact .inr ⟨.missingValue robot .repetir name, none, rfl, by simp [Sentence.ofHeader, findBlock, hb]⟩
  · next broken header =>
    have inner := (readHeader_breaksOff (List.mem_singleton_self name) header).breaksIn
    exact .inr ⟨broken.fault, some .header, inner.fault, by simp [Sentence.ofHeader, inner.findBlock]⟩

section Statement
variable {robot stop first : Token} {ts : List Token} {sentence : Sentence} {broken : Broken}

theorem readCall_ok (hr : robot.kind = .identifier) (h : readCall robot stop ts = .ok sentence) :
    Complete (robot :: ts) sentence ∨
      ∃ dot name rest cause recovery, ts = dot :: name :: rest ∧ CallHead robot dot name .repetir ∧
        cause.isOfSentence = true ∧ sentence = .ofHeader cause recovery rest := by
  unfold readCall at h
  split at h
  · simp at h
  · next dot behind point =>
    obtain ⟨rfl, hd⟩ := expect_ok point
    dsimp only at h
    split at h
    · next here =>
      obtain ⟨name, rest, rfl, hm⟩ := exists_cons_of_nextKind here (by simp)
      cases h
      rcases readRepeat_eq ⟨hr, hd, hm⟩ with complete | ⟨cause, recovery, hc, eq⟩
      · exact .inl complete
      · exact .inr ⟨dot, name, rest, cause, recovery, rfl, ⟨hr, hd, hm⟩, hc, eq⟩
    · next method plain here =>
      obtain ⟨name, rest, rfl, hm⟩ := exists_cons_of_nextKind here (by simp)
      have head : CallHead robot dot name method := ⟨hr, hd, hm⟩
      left
      split at h
      · next arity =>
        split at h
        · simp at h
        · next argument after value =>
          cases h
          rcases readValue_ok value with ⟨sign, ht, hs, hn⟩ | ⟨opening, closing, ht, enclosed⟩
          · obtain rfl : rest = sign :: argument :: after := ht
            exact .assignment head arity (by simpa using plain) hs hn
          · obtain rfl : rest = opening :: argument :: closing :: after := ht
            exact .valueCall head arity (by simpa using plain) enclosed
      · next arity =>
        split at h
        · simp at h
        · next after value =>
          cases h
          rcases readNoValue_ok value with ⟨ht, ho, he⟩ | ⟨opening, closing, ht, ho, hc⟩
          · obtain rfl : rest = after := ht
            exact .bareCall head arity ho he
          · obtain rfl : rest = opening :: closing :: after := ht
            exact .emptyCall head arity ho hc
    · simp at h
    · simp at h

theorem readCall_breaksOff {taken : List Token} (h : readCall robot stop ts = .error broken) :
    BreaksOff taken stop ts broken := by
  unfold readCall at h
  split at h
  · next missing =>
    cases h
    exact expect_breaksOff (fun _ => ⟨rfl, rfl⟩) missing
  · next dot behind point =>
    obtain ⟨rfl, hd⟩ := expect_ok point
    refine .cons ?_ hd rfl
    dsimp only at h
    split at h
    · simp at h
    · next method plain here =>
      obtain ⟨name, rest, rfl, hm⟩ := exists_cons_of_nextKind here (by simp)
      refine .cons ?_ hm rfl
      split at h
      · split at h
        · next value =>
          cases h
          exact readValue_breaksOff (List.mem_append_right _ (List.mem_singleton_self name)) value
        · simp at h
      · split at h
        · next value =>
          cases h
          exact readNoValue_breaksOff value
        · simp at h
    · cases h
      exact .next rfl rfl
    · cases h
      exact .next rfl rfl

theorem readCall_head {dot name : Token} (head : CallHead robot dot name .repetir) :
    readCall robot stop (dot :: name :: ts) = .ok (readRepeat robot name stop ts) := by
  simp [readCall, expect, nextKind, head.dot, head.name]

theorem readStatement?_ok (h : readStatement? stop first ts = .ok sentence) :
    Complete (first :: ts) sentence ∨
      ∃ dot name rest cause recovery, ts = dot :: name :: rest ∧ CallHead first dot name .repetir ∧
        cause.isOfSentence = true ∧ sentence = .ofHeader cause recovery rest := by
  unfold readStatement? at h
  split at h
  · next hk =>
    split at h
    · simp at h
    · next name rest found =>
      obtain ⟨rfl, hn⟩ := expect_ok found
      cases h
      exact .inl (.declaration hk hn)
  · next hk => exact readCall_ok hk h
  · simp at h

theorem readStatement?_breaksOff (h : readStatement? stop first ts = .error broken) :
    BreaksOff [first] stop ts broken := by
  unfold readStatement? at h
  split at h
  · split at h
    · next missing =>
      cases h
      exact expect_breaksOff (fun _ => ⟨rfl, rfl⟩) missing
    · simp at h
  · exact readCall_breaksOff h
  · cases h
    exact .back rfl (List.mem_singleton_self first)

theorem readStatement?_head {dot name : Token} (head : CallHead first dot name .repetir) :
    readStatement? stop first (dot :: name :: ts) = .ok (readRepeat first name stop ts) := by
  simp [readStatement?, head.robot, readCall_head head]

theorem ne_repetir_of_nullary {method : Method} (h : method.signature.arity = .nullary) : method ≠ .repetir := by
  rintro rfl
  simp [Signature.arity, Method.signature, Method.range] at h

theorem readStatement_of_complete (h : Complete (first :: ts) sentence) :
    readStatement stop first ts = sentence := by
  cases h with
  | declaration hk hn => simp [readStatement, readStatement?, expect, hk, hn]
  | @assignment _ dot name sign number method rest head arity plain hs hn =>
    simp [readStatement, readStatement?, readCall, readValue, expect, nextKind, head.robot, head.dot, head.name,
      arity, hs, hn]
  | @valueCall _ dot name opening number closing method rest head arity plain value =>
    simp [readStatement, readStatement?, readCall, readValue, expect, nextKind, head.robot, head.dot, head.name,
      arity, value.opening, value.number, value.closing]
  | @bareCall _ dot name method rest head arity ho he =>
    have plain := ne_repetir_of_nullary arity
    have value : readNoValue first method stop rest = .ok rest := by
      unfold readNoValue; split <;> simp_all
    simp [readStatement, readStatement?, readCall, expect, nextKind, head.robot, head.dot, head.name, arity, value]
  | @emptyCall _ dot name opening closing method rest head arity ho hc =>
    have plain := ne_repetir_of_nullary arity
    simp [readStatement, readStatement?, readCall, readNoValue, expect, nextKind, head.robot, head.dot, head.name,
      arity, ho, hc]
  | header head value hb =>
    simp [readStatement, readStatement?, readCall, readRepeat, readHeader, readValue, expect, nextKind,
      head.robot, head.dot, head.name, value.opening, value.number, value.closing, hb]

theorem Complete.no_fault (h : Complete ts sentence) : ∀ e ∈ sentence.events, e.fault? = none := by
  cases h <;> simp [Event.fault?]

theorem reads_readStatement (stop first : Token) (ts : List Token) :
    Reads (first :: ts) (readStatement stop first ts) := by
  -- a complete sentence would have been read without a fault
  have incomplete : ∀ {cause recovery more block rest},
      readStatement stop first ts = ⟨.fault cause recovery :: more, block, rest⟩ →
        ∀ sentence, ¬Complete (first :: ts) sentence := by
    intro cause recovery more block rest eq sentence complete
    have faultless := complete.no_fault
    rw [← readStatement_of_complete complete, eq] at faultless
    simpa [Event.fault?] using faultless (.fault cause recovery) (by simp)
  cases hs : readStatement? stop first ts with
  | ok sentence =>
    have eq : readStatement stop first ts = sentence := by simp [readStatement, hs]
    rcases readStatement?_ok hs with complete | ⟨dot, name, rest, cause, recovery, rfl, head, hc, rfl⟩
    · exact eq ▸ .complete complete
    · exact eq ▸ .brokenHeader head hc (incomplete eq)
  | error broken =>
    have eq : readStatement stop first ts = ⟨[.fault broken.fault (some .statement)], none, resume broken.rest⟩ := by
      simp [readStatement, hs]
    have inner := (readStatement?_breaksOff hs).breaksIn
    have headless : ∀ dot name rest, ts = dot :: name :: rest → ¬CallHead first dot name .repetir := by
      rintro dot name rest rfl head
      rw [readStatement?_head head] at hs
      cases hs
    rw [inner.resume] at eq
    exact eq ▸ .broken inner.fault (incomplete eq) headless

end Statement

end ArmScript
