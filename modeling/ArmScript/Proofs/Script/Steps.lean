import ArmScript.Proofs.Script.Ahead

/-!
Reading step by step, over words that may go on behind the end of the input. A step takes a word, tries a sentence or
leaves a block, and each one has less to do than the one before. So reading comes to its end whatever the words are.
What happens on the way is what happens in the words up to the first end of the input.
-/
set_option autoImplicit false

namespace ArmScript

def takeWord : List Token → List Token
  | [] => []
  | t :: ts => if t.kind = .endOfInput then t :: ts else ts

def stopsRecovery : List Token → Bool
  | [] => true
  | t :: ts => t.kind == .endOfInput || isBoundary t ts

def repeatHead? (first : Token) : List Token → Option (Token × List Token)
  | dot :: name :: ts =>
    if first.kind = .identifier ∧ dot.kind = .dot ∧ name.kind = .method .repetir then some (name, ts) else none
  | _ => none

def asking (recovery : Recovery) : Except Broken Sentence → Except (Recovery × Broken) Sentence
  | .ok sentence => .ok sentence
  | .error broken => .error (recovery, broken)

/-- Tries a sentence. Where none starts no word is taken. -/
def attempt (final : Token) : List Token → Except (Recovery × Broken) Sentence
  | [] => .error (.statement, ⟨.unexpected .statement final, []⟩)
  | first :: ts =>
    match repeatHead? first ts with
    | some (name, header) => asking .header (readHeader first name final header)
    | none =>
      if first.kind = .robot ∨ first.kind = .identifier then asking .statement (readStatement? final first ts)
      else .error (.statement, ⟨.unexpected .statement first, first :: ts⟩)

/-- A reader on its way: the recovery it is in, the blocks it is inside of, the innermost first, and the words that it
has not taken. -/
structure Reader where
  recovery : Option Recovery
  blocks : List Token
  rest : List Token
  deriving DecidableEq, Repr

namespace Reader

def start (words : List Token) : Reader := ⟨none, [], words⟩

def afterAttempt (r : Reader) : Except (Recovery × Broken) Sentence → List Event × Reader
  | .ok sentence => (sentence.events, ⟨none, sentence.block.toList ++ r.blocks, sentence.rest⟩)
  | .error (.header, broken) => ([.fault broken.fault (some .header)], ⟨some .header, r.blocks, broken.rest⟩)
  | .error (.statement, broken) =>
    let rest := if broken.rest.length = r.rest.length then takeWord broken.rest else broken.rest
    ([.fault broken.fault (some .statement)], ⟨some .statement, r.blocks, rest⟩)

/-- One step, and what happens in it. The given word is behind the last one. A reader that has left all its blocks at
the end of the input makes no step. -/
def step (final : Token) (r : Reader) : Option (List Event × Reader) :=
  let next := r.rest.headD final
  match r.recovery with
  | some recovery =>
    if recovery = .header ∧ nextKind r.rest = .openBrace then
      some ([.opened next], ⟨none, next :: r.blocks, takeWord r.rest⟩)
    else if stopsRecovery r.rest then some ([], { r with recovery := none })
    else some ([], { r with rest := takeWord r.rest })
  | none =>
    if nextKind r.rest = .endOfInput then
      match r.blocks with
      | [] => none
      | brace :: outer => some ([.fault (.unclosedBlock brace next) none], { r with blocks := outer })
    else if nextKind r.rest = .closeBrace then
      match r.blocks with
      | [] => some ([.fault (.strayBrace next) none], { r with rest := takeWord r.rest })
      | _ :: outer => some ([.closed next], { r with blocks := outer, rest := takeWord r.rest })
    else some (r.afterAttempt (attempt final r.rest))

inductive Steps (final : Token) : Nat → Reader → List Event → Reader → Prop where
  | refl (r : Reader) : Steps final 0 r [] r
  | head {n : Nat} {r next last : Reader} {events more : List Event} (first : r.step final = some (events, next))
      (later : Steps final n next more last) : Steps final (n + 1) r (events ++ more) last

theorem Steps.trans {final : Token} {m n : Nat} {r s t : Reader} {events more : List Event}
    (h : Steps final m r events s) (later : Steps final n s more t) : Steps final (m + n) r (events ++ more) t := by
  induction h with
  | refl r => rwa [Nat.zero_add]
  | head first _ ih =>
    rw [List.append_assoc, Nat.add_right_comm]
    exact .head first (ih later)

theorem Steps.single {final : Token} {r s : Reader} {events : List Event} (h : r.step final = some (events, s)) :
    Steps final 1 r events s := by
  simpa using Steps.head h (.refl s)

end Reader

def countOpenBraces (ts : List Token) : Nat := ts.countP fun t => t.kind == .openBrace

section Progress
variable {final first : Token} {ts : List Token}

theorem countOpenBraces_cons (t : Token) (ts : List Token) :
    countOpenBraces (t :: ts) = countOpenBraces ts + if t.kind = .openBrace then 1 else 0 := by
  simp [countOpenBraces, List.countP_cons]

theorem countOpenBraces_le {as bs : List Token} (h : as <:+ bs) : countOpenBraces as ≤ countOpenBraces bs :=
  h.sublist.countP_le

theorem takeWord_cons (h : first.kind ≠ .endOfInput) : takeWord (first :: ts) = ts := if_neg h

theorem repeatHead?_eq_some {name : Token} {header : List Token} (h : repeatHead? first ts = some (name, header)) :
    ∃ dot, ts = dot :: name :: header ∧ CallHead first dot name .repetir := by
  unfold repeatHead? at h
  split at h
  · next dot name ts =>
    split at h
    · next head =>
      cases h
      exact ⟨dot, rfl, head.1, head.2.1, head.2.2⟩
    · cases h
  · cases h

theorem repeatHead?_eq_none (h : repeatHead? first ts = none) {dot name : Token} {rest : List Token}
    (split : ts = dot :: name :: rest) : ¬CallHead first dot name .repetir := by
  rintro ⟨hf, hd, hn⟩
  simp [split, repeatHead?, hf, hd, hn] at h

/-- Words are taken, at least one, and then perhaps a brace that opens a block, and the others are left. -/
structure Takes (words : List Token) (block : Option Token) (rest : List Token) : Prop where
  split : ∃ t taken, words = t :: taken ++ (block.toList ++ rest)
  brace : ∀ brace ∈ block, brace.kind = .openBrace

namespace Takes
variable {words rest : List Token} {block : Option Token}

theorem length (h : Takes words block rest) : block.toList.length + rest.length < words.length := by
  obtain ⟨t, taken, rfl⟩ := h.split
  simp only [List.length_append, List.length_cons]
  omega

theorem isSuffix (h : Takes words block rest) : rest <:+ words := by
  obtain ⟨t, taken, rfl⟩ := h.split
  exact (List.suffix_append block.toList rest).trans (List.suffix_append (t :: taken) _)

theorem braces (h : Takes words block rest) :
    block.toList.length + countOpenBraces rest ≤ countOpenBraces words := by
  obtain ⟨t, taken, rfl⟩ := h.split
  refine Nat.le_trans (Nat.le_of_eq ?_) (countOpenBraces_le (List.suffix_append (t :: taken) _))
  cases block with
  | none => simp
  | some brace => simp [countOpenBraces_cons, h.brace brace rfl, Nat.add_comm]

end Takes

theorem Complete.takes {words : List Token} {sentence : Sentence} (h : Complete words sentence) :
    Takes words sentence.block sentence.rest := by
  cases h with
  | declaration hk hn => exact ⟨⟨_, [_], rfl⟩, by simp⟩
  | assignment head arity plain hs hn => exact ⟨⟨_, [_, _, _, _], rfl⟩, by simp⟩
  | valueCall head arity plain value => exact ⟨⟨_, [_, _, _, _, _], rfl⟩, by simp⟩
  | bareCall head arity ho he => exact ⟨⟨_, [_, _], rfl⟩, by simp⟩
  | emptyCall head arity ho hc => exact ⟨⟨_, [_, _, _, _], rfl⟩, by simp⟩
  | header head value hb => exact ⟨⟨_, [_, _, _, _, _], rfl⟩, by simpa using hb⟩

theorem asking_eq_ok {recovery : Recovery} {read : Except Broken Sentence} {sentence : Sentence}
    (h : asking recovery read = .ok sentence) : read = .ok sentence := by
  cases read with
  | ok other => exact congrArg Except.ok (Except.ok.inj h)
  | error broken => cases h

theorem asking_eq_error {recovery asked : Recovery} {read : Except Broken Sentence} {broken : Broken}
    (h : asking recovery read = .error (asked, broken)) : asked = recovery ∧ read = .error broken := by
  cases read with
  | ok sentence => cases h
  | error other =>
    cases h
    exact ⟨rfl, rfl⟩

theorem attempt_cases (final first : Token) (ts : List Token) :
    (∃ dot name header, ts = dot :: name :: header ∧ CallHead first dot name .repetir ∧
        attempt final (first :: ts) = asking .header (readHeader first name final header)) ∨
      ((∀ dot name rest, ts = dot :: name :: rest → ¬CallHead first dot name .repetir) ∧
        attempt final (first :: ts) = asking .statement (readStatement? final first ts)) ∨
      readStatement? final first ts = .error ⟨.unexpected .statement first, ts⟩ ∧
        attempt final (first :: ts) = .error (.statement, ⟨.unexpected .statement first, first :: ts⟩) := by
  cases hh : repeatHead? first ts with
  | some read =>
    obtain ⟨name, header⟩ := read
    obtain ⟨dot, rfl, head⟩ := repeatHead?_eq_some hh
    exact .inl ⟨dot, name, header, rfl, head, by simp only [attempt, hh]⟩
  | none =>
    refine .inr ?_
    by_cases starts : first.kind = .robot ∨ first.kind = .identifier
    · exact .inl ⟨fun _ _ _ => repeatHead?_eq_none hh, by simp only [attempt, hh, if_pos starts]⟩
    · have startless : readStatement? final first ts = .error ⟨.unexpected .statement first, ts⟩ := by
        unfold readStatement?
        split <;> simp_all
      exact .inr ⟨startless, by simp only [attempt, hh, if_neg starts]⟩

theorem attempt_ok {sentence : Sentence} (h : attempt final (first :: ts) = .ok sentence) :
    Takes (first :: ts) sentence.block sentence.rest := by
  rcases attempt_cases final first ts with ⟨dot, name, header, rfl, head, tries⟩ | ⟨headless, tries⟩ | ⟨-, tries⟩
  · rcases readHeader_ok (asking_eq_ok (tries.symm.trans h)) with
      ⟨opening, count, closing, brace, rest, rfl, -, hb, rfl⟩ | ⟨brace, rest, rfl, hb, rfl⟩
    · exact ⟨⟨first, [dot, name, opening, count, closing], rfl⟩, by simpa using hb⟩
    · exact ⟨⟨first, [dot, name], rfl⟩, by simpa using hb⟩
  · rcases readStatement?_ok (asking_eq_ok (tries.symm.trans h)) with
      complete | ⟨dot, name, rest, cause, recovery, split, head, -⟩
    · exact complete.takes
    · exact absurd head (headless dot name rest split)
  · cases tries.symm.trans h

/-- A try that breaks off has taken a word, or none starts a sentence there. -/
theorem attempt_error {recovery : Recovery} {broken : Broken}
    (h : attempt final (first :: ts) = .error (recovery, broken)) :
    Takes (first :: ts) none broken.rest ∨ recovery = .statement ∧ broken.rest = first :: ts := by
  rcases attempt_cases final first ts with ⟨dot, name, header, rfl, head, tries⟩ | ⟨headless, tries⟩ | ⟨-, tries⟩
  · obtain ⟨-, off⟩ := asking_eq_error (tries.symm.trans h)
    obtain ⟨-, read, rfl, -⟩ := readHeader_breaksOff (List.mem_singleton_self name) off
    exact .inl ⟨⟨first, dot :: name :: read, rfl⟩, by simp⟩
  · obtain ⟨-, off⟩ := asking_eq_error (tries.symm.trans h)
    obtain ⟨-, read, rfl, -⟩ := readStatement?_breaksOff off
    exact .inl ⟨⟨first, read, rfl⟩, by simp⟩
  · cases tries.symm.trans h
    exact .inr ⟨rfl, rfl⟩

namespace Reader

inductive Moves : Reader → Reader → Prop where
  | leave {brace : Token} {outer rest : List Token} (h : nextKind rest = .endOfInput) :
      Moves ⟨none, brace :: outer, rest⟩ ⟨none, outer, rest⟩
  | close {t : Token} {blocks rest : List Token} (h : t.kind = .closeBrace) :
      Moves ⟨none, blocks, t :: rest⟩ ⟨none, blocks.tail, rest⟩
  | sentence {blocks words rest : List Token} {block : Option Token} (h : Takes words block rest) :
      Moves ⟨none, blocks, words⟩ ⟨none, block.toList ++ blocks, rest⟩
  | breakOff {recovery : Recovery} {blocks words rest : List Token} (h : Takes words none rest) :
      Moves ⟨none, blocks, words⟩ ⟨some recovery, blocks, rest⟩
  | pass {recovery : Recovery} {t : Token} {blocks rest : List Token} (h : t.kind ≠ .endOfInput) :
      Moves ⟨some recovery, blocks, t :: rest⟩ ⟨some recovery, blocks, rest⟩
  | findBlock {recovery : Recovery} {brace : Token} {blocks rest : List Token} (h : brace.kind = .openBrace) :
      Moves ⟨some recovery, blocks, brace :: rest⟩ ⟨none, brace :: blocks, rest⟩
  | recover {recovery : Recovery} {blocks rest : List Token} :
      Moves ⟨some recovery, blocks, rest⟩ ⟨none, blocks, rest⟩

theorem moves_afterAttempt (final first : Token) (blocks ts : List Token) (h : first.kind ≠ .endOfInput) :
    Moves ⟨none, blocks, first :: ts⟩ (afterAttempt ⟨none, blocks, first :: ts⟩ (attempt final (first :: ts))).2 := by
  cases hs : attempt final (first :: ts) with
  | ok sentence => exact .sentence (attempt_ok hs)
  | error failure =>
    obtain ⟨recovery, broken⟩ := failure
    rcases attempt_error hs with takes | ⟨rfl, same⟩
    · have shorter := takes.length
      cases recovery with
      | header => exact .breakOff takes
      | statement =>
        have taken : broken.rest.length ≠ (first :: ts).length := by
          simp only [Option.toList_none, List.length_nil] at shorter
          omega
        simp only [afterAttempt, if_neg taken]
        exact .breakOff takes
    · simp only [afterAttempt, same, if_true, takeWord_cons h]
      exact .breakOff ⟨⟨first, [], rfl⟩, by simp⟩

theorem moves_of_step {final : Token} {r s : Reader} {events : List Event} (h : r.step final = some (events, s)) :
    Moves r s := by
  obtain ⟨recovery, blocks, rest⟩ := r
  cases recovery with
  | some recovery =>
    simp only [step] at h
    split at h
    · next found =>
      obtain ⟨brace, rest, rfl, hb⟩ := exists_cons_of_nextKind found.2 (by simp)
      cases h
      have taken : takeWord (brace :: rest) = rest := takeWord_cons (by simp [hb])
      simpa only [List.headD_cons, taken] using Moves.findBlock hb
    · split at h
      · cases h
        exact .recover
      · next goesOn =>
        cases h
        cases rest with
        | nil => simp [stopsRecovery] at goesOn
        | cons t rest =>
          have valid : t.kind ≠ .endOfInput := fun ends => goesOn (by simp [stopsRecovery, ends])
          simpa only [takeWord_cons valid] using Moves.pass valid
  | none =>
    simp only [step] at h
    split at h
    · next ends =>
      cases blocks with
      | nil => cases h
      | cons brace outer =>
        cases h
        exact .leave ends
    · next goesOn =>
      obtain ⟨t, rest, rfl⟩ : ∃ t ts, rest = t :: ts := by
        cases rest with
        | nil => exact absurd rfl goesOn
        | cons t ts => exact ⟨t, ts, rfl⟩
      have taken : takeWord (t :: rest) = rest := takeWord_cons goesOn
      split at h
      · next closes =>
        have close : Moves ⟨none, blocks, t :: rest⟩ ⟨none, blocks.tail, rest⟩ := .close closes
        cases blocks with
        | nil =>
          cases h
          simpa only [taken, List.tail_nil] using close
        | cons brace outer =>
          cases h
          simpa only [taken, List.tail_cons] using close
      · have moves := moves_afterAttempt final t blocks rest goesOn
        rw [Option.some.inj h] at moves
        exact moves

/-- What is left to do. A word counts twice, as it may start a sentence that breaks off or opens a block. -/
def work (r : Reader) : Nat := 2 * r.rest.length + r.blocks.length + if r.recovery.isSome then 1 else 0

def nesting (r : Reader) : Nat := r.blocks.length + countOpenBraces r.rest

structure Advances (r s : Reader) : Prop where
  isSuffix : s.rest <:+ r.rest
  work : s.work < r.work
  nesting : s.nesting ≤ r.nesting
  takes : r.recovery = none → nextKind r.rest ≠ .endOfInput → s.rest.length < r.rest.length

theorem Moves.advances {r s : Reader} (h : Moves r s) : Advances r s := by
  cases h with
  | leave ends =>
    exact ⟨List.suffix_refl _, by simp [Reader.work], by simp [Reader.nesting], fun _ goesOn => absurd ends goesOn⟩
  | @close t blocks rest closes =>
    refine ⟨List.suffix_cons t rest, ?_, ?_, fun _ _ => Nat.lt_succ_self _⟩
    · simp [Reader.work]
      omega
    · simp [Reader.nesting, countOpenBraces_cons]
      omega
  | sentence takes =>
    have shorter := takes.length
    have braces := takes.braces
    refine ⟨takes.isSuffix, ?_, ?_, fun _ _ => by simp only; omega⟩
    · simp only [Reader.work, List.length_append, Option.isSome_none, Bool.false_eq_true, if_false]
      omega
    · simp only [Reader.nesting, List.length_append]
      omega
  | breakOff takes =>
    have shorter := takes.length
    have braces := takes.braces
    simp only [Option.toList_none, List.length_nil] at shorter braces
    -- the recovery is one more thing to do, and the word taken makes up for it
    refine ⟨takes.isSuffix, ?_, ?_, fun _ _ => by simp only; omega⟩
    · simp only [Reader.work, Option.isSome_none, Option.isSome_some, Bool.false_eq_true, if_false, if_true]
      omega
    · simp only [Reader.nesting]
      omega
  | @pass recovery t blocks rest goesOn =>
    refine ⟨List.suffix_cons t rest, ?_, ?_, nofun⟩
    · simp [Reader.work]
    · simp [Reader.nesting, countOpenBraces_cons]
  | @findBlock recovery brace blocks rest opens =>
    refine ⟨List.suffix_cons brace rest, ?_, ?_, nofun⟩
    · simp [Reader.work]
      omega
    · simp [Reader.nesting, countOpenBraces_cons, opens]
      omega
  | recover => exact ⟨List.suffix_refl _, by simp [Reader.work], Nat.le_refl _, nofun⟩

theorem Steps.advances {final : Token} {n : Nat} {r s : Reader} {events : List Event} (h : Steps final n r events s) :
    s.rest <:+ r.rest ∧ s.nesting ≤ r.nesting ∧ n + s.work ≤ r.work := by
  induction h with
  | refl r => exact ⟨List.suffix_refl _, Nat.le_refl _, Nat.le_of_eq (Nat.zero_add _)⟩
  | head first _ ih =>
    obtain ⟨isSuffix, nesting, work⟩ := ih
    have advances := (moves_of_step first).advances
    have less := advances.work
    exact ⟨isSuffix.trans advances.isSuffix, Nat.le_trans nesting advances.nesting, by omega⟩

/-- A reader comes to one end only, and whatever it comes to lies before that. -/
theorem Steps.leadsTo {final : Token} {m n : Nat} {r s last : Reader} {events all : List Event}
    (h : Steps final n r events s) (whole : Steps final m r all last) (ended : last.step final = none) :
    ∃ more, all = events ++ more ∧ Steps final (m - n) s more last := by
  induction h generalizing m all with
  | refl r => exact ⟨all, rfl, whole⟩
  | head first _ ih =>
    cases whole with
    | refl => cases first.symm.trans ended
    | head first' later' =>
      cases first.symm.trans first'
      obtain ⟨more, rfl, later⟩ := ih later'
      exact ⟨more, (List.append_assoc _ _ _).symm, by rwa [Nat.add_sub_add_right]⟩

end Reader

end Progress

def recover (recovery : Recovery) (ts : List Token) : Option Token × List Token :=
  match recovery with
  | .statement => (none, resume ts)
  | .header => findBlock ts

theorem recover_cons (recovery : Recovery) (t : Token) (ts : List Token) :
    recover recovery (t :: ts) =
      if recovery = .header ∧ t.kind = .openBrace then (some t, ts)
      else if isBoundary t ts then (none, t :: ts)
      else recover recovery ts := by
  cases recovery with
  | statement =>
    simp only [recover, resume, reduceCtorEq, false_and, if_false]
    split <;> rfl
  | header => simp [recover, findBlock]

def Broken.recovered (recovery : Recovery) (broken : Broken) : Sentence :=
  let found := recover recovery broken.rest
  ⟨.fault broken.fault (some recovery) :: found.1.toList.map .opened, found.1, found.2⟩

def appendTry (tail : List Token) : Except (Recovery × Broken) Sentence → Except (Recovery × Broken) Sentence
  | .ok sentence => .ok (sentence.append tail)
  | .error (recovery, broken) => .error (recovery, broken.append tail)

theorem asking_appendRead (tail : List Token) (recovery : Recovery) (read : Except Broken Sentence) :
    asking recovery (appendRead (·.append tail) tail read) = appendTry tail (asking recovery read) := by
  cases read <;> rfl

section Ended
variable {final : Token} {tail : List Token} (ended : nextKind tail = .endOfInput)
include ended

namespace Reader

/-- Recovery comes to its end within the words up to the end of the input. -/
theorem exists_steps_recover (recovery : Recovery) (blocks : List Token) {ts : List Token}
    (unended : ∀ t ∈ ts, t.kind ≠ .endOfInput) :
    ∃ n ≤ ts.length + 1, Steps final n ⟨some recovery, blocks, ts ++ tail⟩
      ((recover recovery ts).1.toList.map .opened)
      ⟨none, (recover recovery ts).1.toList ++ blocks, (recover recovery ts).2 ++ tail⟩ := by
  induction ts with
  | nil =>
    have stops : stopsRecovery tail = true := by
      cases tail with
      | nil => rfl
      | cons e after => simp [stopsRecovery, show e.kind = .endOfInput from ended]
    refine ⟨1, Nat.le_refl 1, .single ?_⟩
    cases recovery <;> simp [step, recover, resume, findBlock, ended, stops]
  | cons t ts ih =>
    obtain ⟨goesOn, later⟩ := List.forall_mem_cons.mp unended
    -- the word behind a boundary may be the first of the tail, which is no dot
    have boundary : stopsRecovery (t :: ts ++ tail) = isBoundary t ts := by
      simp [stopsRecovery, goesOn, isBoundary_ended ended]
    rw [recover_cons]
    by_cases found : recovery = .header ∧ t.kind = .openBrace
    · refine ⟨1, Nat.le_add_left 1 _, .single ?_⟩
      simp [step, found, nextKind, takeWord]
    · rw [if_neg found]
      by_cases stops : isBoundary t ts
      · refine ⟨1, Nat.le_add_left 1 _, .single ?_⟩
        simp only [step, boundary]
        simp [found, nextKind, stops]
      · obtain ⟨n, bound, steps⟩ := ih later
        have first : step final ⟨some recovery, blocks, t :: ts ++ tail⟩ =
            some ([], ⟨some recovery, blocks, ts ++ tail⟩) := by
          simp only [step, boundary]
          simp [found, nextKind, stops, takeWord, goesOn]
        rw [if_neg stops]
        exact ⟨n + 1, Nat.succ_le_succ bound, .head first steps⟩

theorem repeatHead?_ended {first : Token} {ts : List Token} (h : repeatHead? first ts = none) :
    repeatHead? first (ts ++ tail) = none := by
  cases tail with
  | nil => rwa [List.append_nil]
  | cons e after =>
    have stop : e.kind = .endOfInput := ended
    match ts with
    | [] => cases after <;> simp [repeatHead?, stop]
    | [dot] => simp [repeatHead?, stop]
    | dot :: name :: rest => simpa [repeatHead?] using h

theorem attempt_ended (first : Token) (ts : List Token) :
    attempt final (first :: ts ++ tail) = appendTry tail (attempt (tail.headD final) (first :: ts)) := by
  cases hh : repeatHead? first ts with
  | some read =>
    obtain ⟨name, header⟩ := read
    obtain ⟨dot, rfl, head⟩ := repeatHead?_eq_some hh
    simp [attempt, repeatHead?, head.robot, head.dot, head.name, readHeader_ended ended, asking_appendRead]
  | none =>
    have headless : ∀ dot name rest, ts = dot :: name :: rest → ¬CallHead first dot name .repetir :=
      fun _ _ _ => repeatHead?_eq_none hh
    simp only [List.cons_append, attempt, hh, repeatHead?_ended ended hh,
      readStatement?_ended ended final ts first headless, asking_appendRead]
    split <;> rfl

/-- A try at a sentence reads it, or breaks it off where recovery has to go on. -/
theorem afterAttempt_ended (blocks ts : List Token) {first : Token} (goesOn : first.kind ≠ .endOfInput) :
    let tried := afterAttempt ⟨none, blocks, first :: ts ++ tail⟩ (attempt final (first :: ts ++ tail))
    let sentence := readStatement (tail.headD final) first ts
    tried = (sentence.events, ⟨none, sentence.block.toList ++ blocks, sentence.rest ++ tail⟩) ∨
      ∃ (recovery : Recovery) (broken : Broken), broken.rest <:+ ts ∧ sentence = broken.recovered recovery ∧
        tried = ([.fault broken.fault (some recovery)], ⟨some recovery, blocks, broken.rest ++ tail⟩) := by
  intro tried sentence
  simp only [tried, attempt_ended ended, sentence]
  rcases attempt_cases (tail.headD final) first ts with
    ⟨dot, name, header, rfl, head, tries⟩ | ⟨headless, tries⟩ | ⟨startless, tries⟩
  · have suffix := readHeader_keepsEnd first name (tail.headD final) header
    simp only [tries, readStatement, readStatement?_head head, readRepeat]
    cases hr : readHeader first name (tail.headD final) header with
    | ok read => exact .inl rfl
    | error broken =>
      refine .inr ⟨.header, broken, ?_, rfl, rfl⟩
      exact (suffix.error hr).trans ((List.suffix_cons name header).trans (List.suffix_cons dot _))
  · simp only [tries, readStatement]
    cases hs : readStatement? (tail.headD final) first ts with
    | ok read => exact .inl rfl
    | error broken =>
      obtain ⟨-, read, split, -⟩ := readStatement?_breaksOff hs
      have shorter : (broken.rest ++ tail).length ≠ (first :: ts ++ tail).length := by
        rw [split]
        simp only [List.length_append, List.length_cons]
        omega
      refine .inr ⟨.statement, broken, split ▸ List.suffix_append read broken.rest, rfl, ?_⟩
      simp only [asking, appendTry, afterAttempt, Broken.append, if_neg shorter]
  · -- the try has taken nothing, and the word is taken now
    simp only [tries, readStatement, startless]
    refine .inr ⟨.statement, ⟨.unexpected .statement first, ts⟩, List.suffix_refl _, rfl, ?_⟩
    simp [appendTry, Broken.append, afterAttempt, takeWord, goesOn]

theorem exists_steps_sentence (blocks : List Token) {first : Token} {ts : List Token}
    (unended : ∀ t ∈ first :: ts, t.kind ≠ .endOfInput) (hc : first.kind ≠ .closeBrace) :
    let sentence := readStatement (tail.headD final) first ts
    ∃ n, Steps final n ⟨none, blocks, first :: ts ++ tail⟩ sentence.events
      ⟨none, sentence.block.toList ++ blocks, sentence.rest ++ tail⟩ := by
  intro sentence
  obtain ⟨goesOn, later⟩ := List.forall_mem_cons.mp unended
  have first : step final ⟨none, blocks, first :: ts ++ tail⟩ =
      some (afterAttempt ⟨none, blocks, first :: ts ++ tail⟩ (attempt final (first :: ts ++ tail))) := by
    simp [step, nextKind, goesOn, hc]
  rcases afterAttempt_ended ended blocks ts goesOn with tried | ⟨recovery, broken, suffix, recovered, tried⟩
  · rw [tried] at first
    exact ⟨1, .single first⟩
  · obtain ⟨n, -, steps⟩ :=
      @exists_steps_recover final _ ended recovery blocks _ fun t ht => later t (suffix.mem ht)
    rw [tried] at first
    refine ⟨n + 1, ?_⟩
    rw [show sentence = broken.recovered recovery from recovered]
    exact .head first steps

theorem exists_steps_readBlocks (blocks : List Token) {ts : List Token} (unended : ∀ t ∈ ts, t.kind ≠ .endOfInput) :
    ∃ n, Steps final n ⟨none, blocks, ts ++ tail⟩ (readBlocks (tail.headD final) blocks ts) ⟨none, [], tail⟩ := by
  fun_induction readBlocks (tail.headD final) blocks ts with
  | case1 blocks =>
    -- each block that is still open is left in a step of its own
    induction blocks with
    | nil => exact ⟨0, .refl _⟩
    | cons brace outer ih =>
      obtain ⟨n, steps⟩ := ih
      have first : step final ⟨none, brace :: outer, tail⟩ =
          some ([.fault (.unclosedBlock brace (tail.headD final)) none], ⟨none, outer, tail⟩) := by
        simp [step, ended]
      exact ⟨n + 1, .head first steps⟩
  | case2 t ts hc ih =>
    obtain ⟨goesOn, later⟩ := List.forall_mem_cons.mp unended
    obtain ⟨n, steps⟩ := ih later
    have first : step final ⟨none, [], t :: ts ++ tail⟩ =
        some ([.fault (.strayBrace t) none], ⟨none, [], ts ++ tail⟩) := by
      simp [step, nextKind, hc, takeWord]
    exact ⟨n + 1, .head first steps⟩
  | case3 t ts hc brace outer ih =>
    obtain ⟨goesOn, later⟩ := List.forall_mem_cons.mp unended
    obtain ⟨n, steps⟩ := ih later
    have first : step final ⟨none, brace :: outer, t :: ts ++ tail⟩ =
        some ([.closed t], ⟨none, outer, ts ++ tail⟩) := by
      simp [step, nextKind, hc, takeWord]
    exact ⟨n + 1, .head first steps⟩
  | case4 blocks t ts hc sentence ih =>
    obtain ⟨m, first⟩ := @exists_steps_sentence final _ ended blocks _ _ unended hc
    have suffix := (readStatement_isSuffix (tail.headD final) t ts).trans (List.suffix_cons t ts)
    obtain ⟨n, later⟩ := ih fun u hu => unended u (suffix.mem hu)
    exact ⟨m + n, first.trans later⟩

theorem step_ended : step final ⟨none, [], tail⟩ = none := by simp [step, ended]

end Reader

end Ended

def beforeEnd (words : List Token) : List Token := words.takeWhile fun t => t.kind != .endOfInput

def fromEnd (words : List Token) : List Token := words.dropWhile fun t => t.kind != .endOfInput

theorem beforeEnd_append_fromEnd (words : List Token) : beforeEnd words ++ fromEnd words = words :=
  List.takeWhile_append_dropWhile

theorem beforeEnd_append {e : Token} (he : e.kind = .endOfInput) (words rest : List Token) :
    beforeEnd (words ++ e :: rest) = beforeEnd words := by
  induction words with
  | nil => simp [beforeEnd, he]
  | cons t words ih =>
    simp only [beforeEnd, List.cons_append, List.takeWhile_cons] at ih ⊢
    split
    · exact congrArg (t :: ·) ih
    · rfl

theorem kind_of_mem_beforeEnd (words : List Token) : ∀ t ∈ beforeEnd words, t.kind ≠ .endOfInput := fun t ht => by
  simpa using List.all_eq_true.mp List.all_takeWhile t ht

theorem nextKind_fromEnd (words : List Token) : nextKind (fromEnd words) = .endOfInput := by
  induction words with
  | nil => rfl
  | cons t words ih =>
    by_cases ends : t.kind = .endOfInput
    · simp [fromEnd, ends, nextKind]
    · simpa [fromEnd, ends] using ih

namespace Reader

structure OnCourse (final : Token) (words : List Token) (r : Reader) : Prop where
  /-- It is inside of no more blocks than there are opening braces. -/
  depth : r.blocks.length ≤ countOpenBraces words
  /-- The end of the input is not taken, nor is what stands behind it. -/
  keepsEnd : fromEnd words <:+ r.rest
  /-- Between sentences it takes a word, until it is at the end of the input. -/
  takes : r.recovery = none → nextKind r.rest ≠ .endOfInput →
    ∃ events s, r.step final = some (events, s) ∧ s.rest.length < r.rest.length
  /-- A recovery is over before the words are. -/
  recovers : r.recovery ≠ none →
    ∃ n ≤ r.rest.length + 1, ∃ events s, Steps final n r events s ∧ s.recovery = none

theorem exists_step (final : Token) {r : Reader} (h : nextKind r.rest ≠ .endOfInput) :
    ∃ events s, r.step final = some (events, s) := by
  simp only [step, if_neg h]
  split
  · split
    · exact ⟨_, _, rfl⟩
    · split <;> exact ⟨_, _, rfl⟩
  · split
    · split <;> exact ⟨_, _, rfl⟩
    · exact ⟨_, _, rfl⟩

theorem exists_steps_recovered (final : Token) {r : Reader} (h : r.recovery ≠ none) :
    ∃ n ≤ r.rest.length + 1, ∃ events s, Steps final n r events s ∧ s.recovery = none := by
  obtain ⟨recovery, blocks, rest⟩ := r
  obtain ⟨recovery, rfl⟩ := Option.ne_none_iff_exists'.mp h
  obtain ⟨n, bound, steps⟩ :=
    @exists_steps_recover final _ (nextKind_fromEnd rest) recovery blocks _ (kind_of_mem_beforeEnd rest)
  rw [beforeEnd_append_fromEnd] at steps
  have within : (beforeEnd rest).length ≤ rest.length := (List.takeWhile_prefix _).length_le
  exact ⟨n, by simp only; omega, _, _, steps, rfl⟩

/-- Reading comes to the end of any words in no more steps than two for each word. -/
theorem exists_steps_start (final : Token) (words : List Token) :
    ∃ n ≤ 2 * words.length, Steps final n (start words)
      (readBlocks ((fromEnd words).headD final) [] (beforeEnd words)) ⟨none, [], fromEnd words⟩ := by
  obtain ⟨n, steps⟩ := @exists_steps_readBlocks final _ (nextKind_fromEnd words) [] _ (kind_of_mem_beforeEnd words)
  rw [beforeEnd_append_fromEnd] at steps
  have bound := steps.advances.2.2
  refine ⟨n, ?_, steps⟩
  simp only [work, List.length_nil, Option.isSome_none, Bool.false_eq_true, if_false] at bound
  omega

theorem Steps.onCourse {final : Token} {words : List Token} {n : Nat} {r : Reader} {events : List Event}
    (h : Steps final n (start words) events r) : OnCourse final words r := by
  obtain ⟨-, nesting, -⟩ := h.advances
  obtain ⟨m, -, whole⟩ := exists_steps_start final words
  obtain ⟨more, -, later⟩ := h.leadsTo whole (step_ended (nextKind_fromEnd words))
  refine ⟨?_, later.advances.1, fun between goesOn => ?_, exists_steps_recovered final⟩
  · simp only [Reader.nesting, start, List.length_nil] at nesting
    omega
  · obtain ⟨events, s, first⟩ := exists_step final goesOn
    exact ⟨events, s, first, (moves_of_step first).advances.takes between goesOn⟩

end Reader

end ArmScript
