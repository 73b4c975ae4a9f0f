import ArmScript.Proofs.Script.Calls
import ArmScript.Proofs.Script.Segments

/-!
The braces that open blocks, told by the words before them. A scan that remembers whether a `repetir` still waits for
its brace marks the same ones.
-/
set_option autoImplicit false

namespace ArmScript

def Quiet (words : List Token) : Prop :=
  ∀ t rest, t :: rest <:+ words → isBoundary t rest = false ∧ t.kind ≠ .openBrace

/-- The last head of a `repetir` in some words, with nothing behind it that ends the wait for its brace. The words stand
behind those seen. -/
def Awaits (seen words : List Token) : Prop :=
  ∃ earlier robot dot name between, words = earlier ++ robot :: dot :: name :: between ∧
    CallHead robot dot name .repetir ∧ endsWithKeyword (seen ++ earlier) = false ∧ Quiet between

/-- The brace is the first one behind the head of a `repetir`, and nothing in between starts a sentence or closes a
block. A name that a keyword declares is no head. -/
def Opens (before : List Token) (brace : Token) : Prop := brace.kind = .openBrace ∧ Awaits [] before

theorem quiet_nil : Quiet [] := fun t rest h => absurd (List.suffix_nil.mp h) (List.cons_ne_nil t rest)

theorem quiet_cons_iff {t : Token} {ts : List Token} :
    Quiet (t :: ts) ↔ (isBoundary t ts = false ∧ t.kind ≠ .openBrace) ∧ Quiet ts := by
  constructor
  · exact fun h => ⟨h t ts (List.suffix_refl _), fun u rest hu => h u rest (hu.trans (List.suffix_cons t ts))⟩
  · rintro ⟨first, later⟩ u rest hu
    rcases List.suffix_cons_iff.mp hu with same | hu
    · cases same
      exact first
    · exact later u rest hu

theorem awaits_nil {seen : List Token} : ¬Awaits seen [] := by
  rintro ⟨earlier, robot, dot, name, between, split, -⟩
  simp at split

theorem awaits_cons_iff {seen ts : List Token} {t : Token} :
    Awaits seen (t :: ts) ↔
      (endsWithKeyword seen = false ∧ ∃ dot name between, ts = dot :: name :: between ∧
        CallHead t dot name .repetir ∧ Quiet between) ∨ Awaits (seen ++ [t]) ts := by
  constructor
  · rintro ⟨earlier, robot, dot, name, between, split, head, free, quiet⟩
    cases earlier with
    | nil =>
      obtain ⟨rfl, rfl⟩ := List.cons.inj split
      exact .inl ⟨by simpa using free, dot, name, between, rfl, head, quiet⟩
    | cons u earlier =>
      obtain ⟨rfl, rfl⟩ := List.cons.inj split
      exact .inr ⟨earlier, robot, dot, name, between, rfl, head, by simpa using free, quiet⟩
  · rintro (⟨free, dot, name, between, rfl, head, quiet⟩ | ⟨earlier, robot, dot, name, between, rfl, head, free, quiet⟩)
    · exact ⟨[], t, dot, name, between, rfl, head, by simpa using free, quiet⟩
    · exact ⟨t :: earlier, robot, dot, name, between, rfl, head, by simpa using free, quiet⟩

theorem kind_of_opener {afterKeyword expectsBlock : Bool} {ts : List Token} {t : Token}
    (h : (t, .opener) ∈ marks afterKeyword expectsBlock ts) : t.kind = .openBrace := by
  induction ts generalizing afterKeyword expectsBlock with
  | nil => cases h
  | cons u ts ih =>
    unfold marks at h
    split at h
    · exact ih (by simpa using h)
    · split at h
      · next opens =>
        rcases List.mem_cons.mp h with same | h
        · cases same
          exact beq_iff_eq.mp (Bool.and_eq_true_iff.mp opens).2
        · exact ih h
      · exact ih (by simpa using h)

section Brace
variable {brace t : Token} {seen ts after : List Token} {expectsBlock : Bool}

theorem isBoundary_append (hb : brace.kind = .openBrace) : isBoundary t (ts ++ brace :: after) = isBoundary t ts := by
  cases ts with
  | nil =>
    rw [List.nil_append, isBoundary, isBoundary, nextKind, nextKind, hb]
    rfl
  | cons u ts => rfl

theorem awaits_start (hb : brace.kind = .openBrace)
    (start : startsSegment (endsWithKeyword seen) t (ts ++ brace :: after) = true) :
    ((t.kind == .identifier && nextKind (ts ++ brace :: after).tail == .method .repetir) = true ∧ Quiet ts) ↔
      endsWithKeyword seen = false ∧ ∃ dot name between, ts = dot :: name :: between ∧
        CallHead t dot name .repetir ∧ Quiet between := by
  constructor
  · rintro ⟨waits, quiet⟩
    obtain ⟨hr, hm⟩ := Bool.and_eq_true_iff.mp waits
    have hr : t.kind = .identifier := beq_iff_eq.mp hr
    obtain ⟨hd, free⟩ : nextKind (ts ++ brace :: after) = .dot ∧ endsWithKeyword seen = false := by
      simpa [startsSegment, hr] using start
    cases ts with
    | nil => simp [nextKind, hb] at hd
    | cons dot ts =>
      cases ts with
      | nil => simp [nextKind, hb] at hm
      | cons name between =>
        exact ⟨free, dot, name, between, rfl, ⟨hr, hd, beq_iff_eq.mp hm⟩,
          (quiet_cons_iff.mp (quiet_cons_iff.mp quiet).2).2⟩
  · rintro ⟨free, dot, name, between, rfl, head, quiet⟩
    refine ⟨by simp [head.robot, nextKind, head.name], ?_⟩
    refine quiet_cons_iff.mpr ⟨⟨?_, by simp [head.dot]⟩, quiet_cons_iff.mpr ⟨⟨?_, by simp [head.name]⟩, quiet⟩⟩
    · simp [isBoundary, head.dot]
    · simp [isBoundary, head.name]

/-- A scan marks a brace as an opener when it has waited for one from the start of the words or awaits one since some
head in them. -/
theorem marks_getElem?_eq_opener_iff (hb : brace.kind = .openBrace)
    (idle : endsWithKeyword seen = true → expectsBlock = false) :
    (marks (endsWithKeyword seen) expectsBlock (ts ++ brace :: after))[ts.length]? = some (brace, .opener) ↔
      expectsBlock = true ∧ Quiet ts ∨ Awaits seen ts := by
  -- the scan only remembers the last word and whether it waits, and behind a keyword it never waits
  induction ts generalizing seen expectsBlock with
  | nil =>
    have plain : startsSegment (endsWithKeyword seen) brace after = false := by simp [startsSegment, hb]
    cases expectsBlock <;> simp [marks, plain, hb, quiet_nil, awaits_nil]
  | cons t ts ih =>
    rw [List.cons_append, awaits_cons_iff, quiet_cons_iff, marks, ← @isBoundary_append brace t ts after hb]
    split
    · next start =>
      have boundary : isBoundary t (ts ++ brace :: after) = true := by
        simp only [startsSegment, isBoundary, Bool.or_eq_true, Bool.and_eq_true] at start ⊢
        exact start.imp_right And.left
      have next : endsWithKeyword (seen ++ [t]) = true →
          (t.kind == .identifier && nextKind (ts ++ brace :: after).tail == .method .repetir) = false := by
        rw [endsWithKeyword_concat]
        intro keyword
        rw [beq_iff_eq.mp keyword]
        rfl
      rw [← endsWithKeyword_concat seen t, List.length_cons, List.getElem?_cons_succ, ih next, awaits_start hb start]
      simp [boundary]
    · next inner =>
      have keyword : (t.kind == .robot) = false := by
        simp only [startsSegment, Bool.or_eq_true, not_or] at inner
        simpa using inner.1.1
      have step : ∀ expects, (marks false expects (ts ++ brace :: after))[ts.length]? = some (brace, .opener) ↔
          expects = true ∧ Quiet ts ∨ Awaits (seen ++ [t]) ts := by
        intro expects
        have same : endsWithKeyword (seen ++ [t]) = false := (endsWithKeyword_concat seen t).trans keyword
        have later := @ih (seen ++ [t]) expects fun h => absurd (h.symm.trans same) (by decide)
        rwa [same] at later
      have headless : ¬(endsWithKeyword seen = false ∧ ∃ dot name between, ts = dot :: name :: between ∧
          CallHead t dot name .repetir ∧ Quiet between) := by
        rintro ⟨free, dot, name, between, rfl, head, -⟩
        exact inner (by simp [startsSegment, head.robot, nextKind, head.dot, free])
      split
      · next opens =>
        obtain ⟨-, ho⟩ := Bool.and_eq_true_iff.mp opens
        rw [List.length_cons, List.getElem?_cons_succ, step]
        simp [headless, beq_iff_eq.mp ho]
      · next closed =>
        have quiet : expectsBlock = true → isBoundary t (ts ++ brace :: after) = false ∧ t.kind ≠ .openBrace := by
          intro waits
          have free : endsWithKeyword seen = false := by
            cases h : endsWithKeyword seen with
            | false => rfl
            | true => exact absurd (waits.symm.trans (idle h)) (by decide)
          rw [free, startsSegment_false] at inner
          exact ⟨by simpa using inner, by simpa [waits] using closed⟩
        rw [keyword, List.length_cons, List.getElem?_cons_succ, step]
        cases expectsBlock with
        | false => simp [headless]
        | true => simp [headless, quiet rfl]

end Brace

theorem marked_eq_opener_iff (before after : List Token) (brace : Token) :
    (marked (before ++ brace :: after))[before.length]? = some (brace, .opener) ↔ Opens before brace := by
  by_cases hb : brace.kind = .openBrace
  · have scan := @marks_getElem?_eq_opener_iff brace [] before after false hb fun _ => rfl
    exact scan.trans (by simp [Opens, hb])
  · exact ⟨fun h => absurd (kind_of_opener (List.mem_of_getElem? h)) hb, fun h => absurd h.1 hb⟩

end ArmScript
