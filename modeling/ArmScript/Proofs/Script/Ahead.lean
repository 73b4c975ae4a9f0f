import ArmScript.Proofs.Script.Sentence

set_option autoImplicit false

namespace ArmScript

def Broken.append (b : Broken) (tail : List Token) : Broken := ⟨b.fault, b.rest ++ tail⟩

def Sentence.append (s : Sentence) (tail : List Token) : Sentence := ⟨s.events, s.block, s.rest ++ tail⟩

def appendRead {α : Type} (g : α → α) (tail : List Token) : Except Broken α → Except Broken α
  | .ok a => .ok (g a)
  | .error broken => .error (broken.append tail)

theorem headD_append (ts tail : List Token) (final : Token) :
    (ts ++ tail).headD final = ts.headD (tail.headD final) := by
  cases ts <;> rfl

section Ended
variable {tail : List Token} (ended : nextKind tail = .endOfInput)
include ended

theorem nextKind_ended (ts : List Token) : nextKind (ts ++ tail) = nextKind ts := by
  cases ts with
  | nil => exact ended
  | cons t ts => rfl

theorem isBoundary_ended (t : Token) (ts : List Token) : isBoundary t (ts ++ tail) = isBoundary t ts := by
  simp only [isBoundary, nextKind_ended ended]

variable (robot name final : Token) (method : Method) (ts : List Token)

theorem expect_ended {kind : TokenKind} (fault : Token → Fault) (hk : kind ≠ .endOfInput) :
    expect kind fault final (ts ++ tail) =
      appendRead (Prod.map id (· ++ tail)) tail (expect kind fault (tail.headD final) ts) := by
  cases ts with
  | nil =>
    cases tail with
    | nil => rfl
    | cons e after =>
      have other : e.kind ≠ kind := fun same => hk (same.symm.trans ended)
      simp [expect, other, appendRead, Broken.append]
  | cons t ts =>
    simp only [List.cons_append, expect]
    split <;> rfl

theorem readValue_ended :
    readValue robot method name final (ts ++ tail) =
      appendRead (Prod.map id (· ++ tail)) tail (readValue robot method name (tail.headD final) ts) := by
  unfold readValue
  rw [nextKind_ended ended]
  cases ts with
  | nil => rfl
  | cons t ts =>
    rw [List.cons_append, List.tail_cons, List.tail_cons, nextKind_ended ended]
    simp only [expect_ended ended, ne_eq, reduceCtorEq, not_false_eq_true]
    split
    · rfl
    · split
      · rfl
      · cases expect .number (.unexpected .number) (tail.headD final) ts with
        | error broken => rfl
        | ok read =>
          simp only [appendRead, Prod.map_fst, Prod.map_snd, expect_ended ended, ne_eq, reduceCtorEq,
            not_false_eq_true]
          cases expect .closeParen (.unexpected .closeParen) (tail.headD final) read.2 <;> rfl
    · rfl

theorem readNoValue_ended :
    readNoValue robot method final (ts ++ tail) =
      appendRead (· ++ tail) tail (readNoValue robot method (tail.headD final) ts) := by
  unfold readNoValue
  rw [nextKind_ended ended]
  cases ts with
  | nil => rfl
  | cons t ts =>
    simp only [List.cons_append, List.tail_cons, nextKind_ended ended, headD_append]
    split
    · cases ts with
      | nil => rfl
      | cons u ts =>
        simp only [List.cons_append, List.tail_cons]
        split <;> rfl
    · rfl
    · rfl

theorem readHeader_ended :
    readHeader robot name final (ts ++ tail) =
      appendRead (·.append tail) tail (readHeader robot name (tail.headD final) ts) := by
  unfold readHeader
  rw [nextKind_ended ended, readValue_ended ended]
  cases ts with
  | nil => rfl
  | cons t ts =>
    split
    · cases readValue robot .repetir name (tail.headD final) (t :: ts) with
      | error broken => rfl
      | ok read =>
        simp only [appendRead, Prod.map_fst, Prod.map_snd, expect_ended ended, ne_eq, reduceCtorEq, not_false_eq_true]
        cases expect .openBrace (.badHeader robot .openBrace) (tail.headD final) read.2 <;> rfl
    · rfl
    · rfl
    · rfl

/-- A block is looked for behind the end of the input, too, so the head of a `repetir` is not read by this. -/
theorem readCall_ended (headless : ∀ dot name rest, ts = dot :: name :: rest → ¬CallHead robot dot name .repetir)
    (hr : robot.kind = .identifier) :
    readCall robot final (ts ++ tail) = appendRead (·.append tail) tail (readCall robot (tail.headD final) ts) := by
  simp only [readCall, expect_ended ended, ne_eq, reduceCtorEq, not_false_eq_true]
  cases hd : expect .dot (.unexpected .dot) (tail.headD final) ts with
  | error broken => rfl
  | ok read =>
    obtain ⟨dot, ts⟩ := read
    obtain ⟨rfl, dotted⟩ := expect_ok hd
    simp only [appendRead, Prod.map_snd, nextKind_ended ended, headD_append]
    cases ts with
    | nil => rfl
    | cons name ts =>
      simp only [List.cons_append, List.tail_cons, readValue_ended ended, readNoValue_ended ended]
      split
      · next hn => exact absurd ⟨hr, dotted, hn⟩ (headless dot name ts rfl)
      · split
        · cases readValue robot _ (List.headD (name :: ts) (tail.headD final)) (tail.headD final) ts <;> rfl
        · cases readNoValue robot _ (tail.headD final) ts <;> rfl
      · rfl
      · rfl

theorem readStatement?_ended (first : Token)
    (headless : ∀ dot name rest, ts = dot :: name :: rest → ¬CallHead first dot name .repetir) :
    readStatement? final first (ts ++ tail) =
      appendRead (·.append tail) tail (readStatement? (tail.headD final) first ts) := by
  unfold readStatement?
  split
  · simp only [expect_ended ended, ne_eq, reduceCtorEq, not_false_eq_true]
    cases expect .identifier (.unexpected .robotName) (tail.headD final) ts <;> rfl
  · next hr => exact readCall_ended ended _ _ _ headless hr
  · rfl

end Ended

end ArmScript
