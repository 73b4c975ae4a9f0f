import ArmScript.Proofs.Script.Grammar

/-!
The words of a script cut at every place where a sentence or a block can start or end. The faults of a script are
one for each segment that is not a sentence as it stands, one for each brace that closes nothing and one for each
block that nothing closes.
-/
set_option autoImplicit false

namespace ArmScript

inductive WordMark where
  /-- A keyword, a closing brace, or a name with a dot behind it. -/
  | start
  /-- The first brace behind the start of a `repetir`, before the next start. -/
  | opener
  | inner
  deriving DecidableEq, Repr

/-- A name that a keyword declares starts nothing. -/
def startsSegment (afterKeyword : Bool) (t : Token) (rest : List Token) : Bool :=
  t.kind == .robot || t.kind == .closeBrace ||
    t.kind == .identifier && nextKind rest == .dot && !afterKeyword

def marks (afterKeyword expectsBlock : Bool) : List Token → List (Token × WordMark)
  | [] => []
  | t :: rest =>
    if startsSegment afterKeyword t rest then
      (t, .start) :: marks (t.kind == .robot) (t.kind == .identifier && nextKind rest.tail == .method .repetir) rest
    else if expectsBlock && t.kind == .openBrace then (t, .opener) :: marks false false rest
    else (t, .inner) :: marks (t.kind == .robot) expectsBlock rest

def marked (ts : List Token) : List (Token × WordMark) := marks false false ts

/-- The mark is that of the first word. The words before the first cut are a segment of inner words. -/
structure Segment where
  mark : WordMark
  words : List Token
  deriving DecidableEq, Repr

def cut (mark : WordMark) (words : List Token) : List (Token × WordMark) → List Segment
  | [] => [⟨mark, words⟩]
  | (t, .inner) :: rest => cut mark (words ++ [t]) rest
  | (t, next) :: rest => ⟨mark, words⟩ :: cut next [t] rest

def segments (ts : List Token) : List Segment := cut .inner [] (marked ts)

def isSentence : List TokenKind → Bool
  | [.robot, .identifier] => true
  | [.identifier, .dot, .method m] => m.signature.arity == .nullary
  | [.identifier, .dot, .method m, .openParen, .closeParen] => m.signature.arity == .nullary
  | [.identifier, .dot, .method m, .equals, .number] => m.signature.arity == .unary && m != .repetir
  | [.identifier, .dot, .method m, .openParen, .number, .closeParen] =>
    m.signature.arity == .unary && m != .repetir
  | _ => false

def isHeader (kinds : List TokenKind) : Bool :=
  kinds == [.identifier, .dot, .method .repetir, .openParen, .number, .closeParen]

def Segment.isWellFormed (s : Segment) (next : Option WordMark) : Bool :=
  let kinds := s.words.map Token.kind
  match s.mark with
  | .inner => s.words.isEmpty
  | .opener => s.words.length == 1
  | .start => isSentence kinds || kinds == [.closeBrace] || isHeader kinds && next == some .opener

def countBroken : List Segment → Nat
  | [] => 0
  | s :: rest => (if s.isWellFormed (rest.head?.map Segment.mark) then 0 else 1) + countBroken rest

/-- The closing braces that close nothing, and the openers that nothing closes, the innermost first. -/
def pairBraces (blocks : List Token) : List (Token × WordMark) → List Token × List Token
  | [] => ([], blocks)
  | (t, mark) :: rest =>
    if mark = .opener then pairBraces (t :: blocks) rest
    else if t.kind = .closeBrace then
      match blocks with
      | [] => (t :: (pairBraces [] rest).1, (pairBraces [] rest).2)
      | _ :: outer => pairBraces outer rest
    else pairBraces blocks rest

section Pairing
variable {t : Token} {mark : WordMark} {blocks : List Token} {ms : List (Token × WordMark)}

theorem pairBraces_passed (hm : mark ≠ .opener) (hc : t.kind ≠ .closeBrace) :
    pairBraces blocks ((t, mark) :: ms) = pairBraces blocks ms := by
  rw [pairBraces.eq_def]
  simp only [if_neg hm, if_neg hc]

theorem pairBraces_stray (hm : mark ≠ .opener) (hc : t.kind = .closeBrace) :
    pairBraces [] ((t, mark) :: ms) = (t :: (pairBraces [] ms).1, (pairBraces [] ms).2) := by
  rw [pairBraces.eq_def]
  simp only [if_neg hm, if_pos hc]

theorem pairBraces_closed {brace : Token} (hm : mark ≠ .opener) (hc : t.kind = .closeBrace) :
    pairBraces (brace :: blocks) ((t, mark) :: ms) = pairBraces blocks ms := by
  rw [pairBraces.eq_def]
  simp only [if_neg hm, if_pos hc]

end Pairing

def innerWords (ts : List Token) : List (Token × WordMark) := ts.map fun t => (t, .inner)

section Cut
variable {mark : WordMark} {words lead rest : List Token} {ms : List (Token × WordMark)}

theorem cut_innerWords (ts : List Token) : cut mark words (innerWords ts ++ ms) = cut mark (words ++ ts) ms := by
  induction ts generalizing words with
  | nil => simp [innerWords]
  | cons t ts ih =>
    have step : cut mark words (innerWords (t :: ts) ++ ms) = cut mark (words ++ [t]) (innerWords ts ++ ms) := rfl
    rw [step, ih, List.append_assoc]
    rfl

theorem head?_cut : (cut mark words ms).head?.map Segment.mark = some mark := by
  induction ms generalizing words with
  | nil => rfl
  | cons m ms ih =>
    obtain ⟨t, next⟩ := m
    cases next with
    | inner => exact ih
    | start => rfl
    | opener => rfl

theorem countBroken_start {t : Token} :
    countBroken (cut .inner [] ((t, .start) :: ms)) = countBroken (cut .start [t] ms) := by
  have leading : ∀ next, Segment.isWellFormed ⟨.inner, []⟩ next = true := fun _ => rfl
  simp only [cut, countBroken, leading, if_true, Nat.zero_add]

/-- Words that are well formed as they stand, and never with more of what is behind them. -/
def Settled (mark : WordMark) (words rest : List Token) : Prop :=
  ∀ lead next, lead <+: rest → Segment.isWellFormed ⟨mark, words ++ lead⟩ next = lead.isEmpty

theorem Settled.countBroken_append (h : Settled mark words rest) (hl : lead ++ ms.map Prod.fst = rest) :
    countBroken (cut mark (words ++ lead) ms) = countBroken (cut .inner lead ms) := by
  -- `lead` is what stands behind the words so far: it alone decides, as it does for a segment without them
  have same : ∀ next, Segment.isWellFormed ⟨mark, words ++ lead⟩ next =
      Segment.isWellFormed ⟨.inner, lead⟩ next := fun next => h lead next ⟨_, hl⟩
  induction ms generalizing lead with
  | nil => simp only [cut, countBroken, same]
  | cons m ms ih =>
    obtain ⟨t, next⟩ := m
    cases next with
    | inner =>
      have longer : lead ++ [t] ++ ms.map Prod.fst = rest := by simpa using hl
      have inner := ih longer fun next => h (lead ++ [t]) next ⟨_, longer⟩
      simpa [cut] using inner
    | start => simp only [cut, countBroken, same]
    | opener => simp only [cut, countBroken, same]

end Cut

section Marks
variable {afterKeyword expectsBlock : Bool} {t : Token} {ts : List Token}

theorem map_fst_marks (ts : List Token) : (marks afterKeyword expectsBlock ts).map Prod.fst = ts := by
  induction ts generalizing afterKeyword expectsBlock with
  | nil => rfl
  | cons t ts ih =>
    unfold marks
    split
    · simp [ih]
    · split <;> simp [ih]

theorem startsSegment_false : startsSegment false t ts = isBoundary t ts := by
  simp [startsSegment, isBoundary]

theorem marks_passed {k : TokenKind} (ht : t.kind = k) (hk : k.isPassedOver = true) :
    marks afterKeyword expectsBlock (t :: ts) = (t, .inner) :: marks false expectsBlock ts := by
  simp only [TokenKind.isPassedOver, Bool.and_eq_true, bne_iff_ne, ← ht] at hk
  have keyword : (t.kind == .robot) = false := beq_eq_false_iff_ne.mpr hk.1.1.1
  simp [marks, startsSegment, hk, keyword]

theorem marks_opener (h : t.kind = .openBrace) : marks false true (t :: ts) = (t, .opener) :: marked ts := by
  simp [marks, marked, startsSegment, h]

theorem ne_closeBrace_of_inner (h : isBoundary t ts = false) : t.kind ≠ .closeBrace := by
  intro brace
  simp [isBoundary, brace] at h

theorem marks_boundary (h : isBoundary t ts = true) :
    marks false expectsBlock (t :: ts) = (t, .start) :: marks (t.kind == .robot)
      (t.kind == .identifier && nextKind ts.tail == .method .repetir) ts := by
  rw [marks, startsSegment_false, if_pos h]

theorem marks_inner (h : isBoundary t ts = false) (hb : expectsBlock = true → t.kind ≠ .openBrace) :
    marks false expectsBlock (t :: ts) = (t, .inner) :: marks false expectsBlock ts := by
  have keyword : (t.kind == .robot) = false := by
    simp only [isBoundary, Bool.or_eq_false_iff] at h
    exact h.1.1
  have opener : (expectsBlock && t.kind == .openBrace) = false := by
    cases expectsBlock <;> simp_all
  rw [marks, startsSegment_false, h, opener, keyword]
  rfl

theorem marks_afterKeyword (h : nextKind ts ≠ .identifier) :
    marks true expectsBlock ts = marks false expectsBlock ts := by
  cases ts with
  | nil => rfl
  | cons t ts =>
    have ht : (t.kind == .identifier) = false := by simpa [nextKind] using h
    simp [marks, startsSegment, ht]

theorem map_fst_marked (ts : List Token) : (marked ts).map Prod.fst = ts := map_fst_marks ts

theorem kind_findBlock {brace : Token} (h : (findBlock ts).1 = some brace) : brace.kind = .openBrace := by
  induction ts with
  | nil => simp [findBlock] at h
  | cons t ts ih =>
    unfold findBlock at h
    split at h
    · next hb => exact Option.some.inj h ▸ hb
    · split at h
      · simp at h
      · exact ih h

end Marks

theorem Settled.countBroken_marked {mark : WordMark} {words rest : List Token} (h : Settled mark words rest) :
    countBroken (cut mark words (marked rest)) = countBroken (segments rest) := by
  have whole : [] ++ (marked rest).map Prod.fst = rest := map_fst_marked rest
  have same := h.countBroken_append whole
  rwa [List.append_nil] at same

/-- Recovery goes on at the next start, and takes no mark with it. -/
theorem marked_resume (ts : List Token) :
    ∃ junk, marked ts = innerWords junk ++ marked (resume ts) ∧ ts = junk ++ resume ts ∧
      ∀ t ∈ junk, t.kind ≠ .closeBrace := by
  induction ts with
  | nil => exact ⟨[], rfl, rfl, by simp⟩
  | cons t ts ih =>
    by_cases h : isBoundary t ts = true
    · exact ⟨[], by simp [resume, h, innerWords], by simp [resume, h], by simp⟩
    · have inner : isBoundary t ts = false := by simpa using h
      obtain ⟨junk, hm, hw, hj⟩ := ih
      have passed : resume (t :: ts) = resume ts := by simp [resume, inner]
      have brace := ne_closeBrace_of_inner inner
      refine ⟨t :: junk, ?_, ?_, by simpa [brace] using hj⟩
      · rw [passed, marked, marks_inner inner (by simp), ← marked, hm]
        rfl
      · rw [passed, List.cons_append, ← hw]

theorem resume_resume (ts : List Token) : resume (resume ts) = resume ts := by
  induction ts with
  | nil => rfl
  | cons t ts ih =>
    by_cases h : isBoundary t ts = true
    · simp [resume, h]
    · simp [resume, h, ih]

theorem marks_findBlock (ts : List Token) :
    ∃ junk, marks false true ts =
        innerWords junk ++ ((findBlock ts).1.toList.map (·, .opener) ++ marked (findBlock ts).2) ∧
      ts = junk ++ ((findBlock ts).1.toList ++ (findBlock ts).2) ∧ (∀ t ∈ junk, t.kind ≠ .closeBrace) ∧
      ((findBlock ts).1 = none → resume (findBlock ts).2 = (findBlock ts).2) := by
  induction ts with
  | nil => exact ⟨[], rfl, rfl, by simp, fun _ => rfl⟩
  | cons t ts ih =>
    by_cases hb : t.kind = .openBrace
    · have found : findBlock (t :: ts) = (some t, ts) := by simp [findBlock, hb]
      refine ⟨[], ?_, ?_, by simp, by simp [found]⟩
      · rw [marks_opener hb, found]
        rfl
      · rw [found]
        rfl
    · by_cases h : isBoundary t ts = true
      · have missed : findBlock (t :: ts) = (none, t :: ts) := by simp [findBlock, hb, h]
        refine ⟨[], ?_, ?_, by simp, by simp [missed, resume, h]⟩
        · rw [marks_boundary h, missed, marked, Option.toList_none, marks_boundary h]
          rfl
        · rw [missed]
          rfl
      · have inner : isBoundary t ts = false := by simpa using h
        obtain ⟨junk, hm, hw, hj, hr⟩ := ih
        have passed : findBlock (t :: ts) = findBlock ts := by simp [findBlock, hb, inner]
        have brace := ne_closeBrace_of_inner inner
        refine ⟨t :: junk, ?_, ?_, by simpa [brace] using hj, by rwa [passed]⟩
        · rw [passed, marks_inner inner fun _ => hb, hm]
          rfl
        · rw [passed, List.cons_append, ← hw]

section Complete
variable {robot dot name : Token} {method : Method} {rest : List Token}

theorem marked_head (head : CallHead robot dot name method) :
    marked (robot :: dot :: name :: rest) =
      (robot, .start) :: (dot, .inner) :: (name, .inner) :: marks false (method == .repetir) rest := by
  have start : isBoundary robot (dot :: name :: rest) = true := by
    simp [isBoundary, head.robot, nextKind, head.dot]
  have block : (name.kind == .method .repetir) = (method == .repetir) := by
    rw [head.name, Bool.eq_iff_iff]
    simp
  rw [marked, marks_boundary start, head.robot, marks_passed head.dot rfl,
    marks_passed head.name rfl]
  simp [nextKind, block]

theorem marked_plain_head (head : CallHead robot dot name method) (plain : method ≠ .repetir) :
    marked (robot :: dot :: name :: rest) =
      (robot, .start) :: (dot, .inner) :: (name, .inner) :: marked rest := by
  rw [marked_head head, beq_eq_false_iff_ne.mpr plain]
  rfl

end Complete

theorem marked_complete {t : Token} {ts : List Token} {sentence : Sentence} (h : Complete (t :: ts) sentence) :
    ∃ inner, marked (t :: ts) = (t, .start) ::
        (innerWords inner ++ (sentence.block.toList.map (·, .opener) ++ marked sentence.rest)) ∧
      (∀ u ∈ t :: inner, u.kind ≠ .closeBrace) ∧
      match sentence.block with
      | none => Settled .start (t :: inner) sentence.rest
      | some _ => Segment.isWellFormed ⟨.start, t :: inner⟩ (some .opener) = true := by
  cases h with
  | @declaration _ name rest hk hn =>
    refine ⟨[name], ?_, by simp [hk, hn], ?_⟩
    · have start : isBoundary t (name :: rest) = true := by simp [isBoundary, hk]
      have declared : marks true false (name :: rest) = (name, .inner) :: marked rest := by
        rw [marks, show startsSegment true name rest = false by simp [startsSegment, hn], hn]
        rfl
      rw [marked, marks_boundary start, hk]
      exact congrArg _ declared
    · intro lead next _
      cases lead <;> simp [Segment.isWellFormed, isSentence, isHeader, hk, hn]
  | @assignment robot dot name sign number method rest head arity hp hs hn =>
    refine ⟨[dot, name, sign, number], ?_, ?_, ?_⟩
    · rw [marked_plain_head head hp, marked, marks_passed hs rfl, marks_passed hn rfl]
      rfl
    · simp [head.robot, head.dot, head.name, hs, hn]
    · intro lead next _
      cases lead <;>
        simp [Segment.isWellFormed, isSentence, isHeader, head.robot, head.dot, head.name, hs, hn, arity, hp]
  | @valueCall robot dot name opening number closing method rest head arity hp value =>
    refine ⟨[dot, name, opening, number, closing], ?_, ?_, ?_⟩
    · rw [marked_plain_head head hp, marked, marks_passed value.opening rfl,
        marks_passed value.number rfl, marks_passed value.closing rfl]
      rfl
    · simp [head.robot, head.dot, head.name, value.opening, value.number, value.closing]
    · intro lead next _
      cases lead <;>
        simp [Segment.isWellFormed, isSentence, isHeader, head.robot, head.dot, head.name, value.opening,
          value.number, value.closing, arity, hp]
  | @bareCall robot dot name method rest head arity ho he =>
    refine ⟨[dot, name], ?_, ?_, ?_⟩
    · rw [marked_plain_head head (ne_repetir_of_nullary arity)]
      rfl
    · simp [head.robot, head.dot, head.name]
    · intro lead next hl
      cases lead with
      | nil => simp [Segment.isWellFormed, isSentence, isHeader, head.robot, head.dot, head.name, arity]
      | cons t lead =>
        obtain ⟨behind, rfl⟩ := hl
        have ho' : t.kind ≠ .openParen := ho
        have he' : t.kind ≠ .equals := he
        simp [Segment.isWellFormed, isSentence, isHeader, head.robot, head.dot, head.name, ho', he']
  | @emptyCall robot dot name opening closing method rest head arity ho hc =>
    refine ⟨[dot, name, opening, closing], ?_, ?_, ?_⟩
    · rw [marked_plain_head head (ne_repetir_of_nullary arity), marked, marks_passed ho rfl,
        marks_passed hc rfl]
      rfl
    · simp [head.robot, head.dot, head.name, ho, hc]
    · intro lead next _
      cases lead <;>
        simp [Segment.isWellFormed, isSentence, isHeader, head.robot, head.dot, head.name, ho, hc, arity]
  | @header robot dot name opening number closing brace rest head value hb =>
    refine ⟨[dot, name, opening, number, closing], ?_, ?_, ?_⟩
    · rw [marked_head head, beq_self_eq_true, marks_passed value.opening rfl,
        marks_passed value.number rfl, marks_passed value.closing rfl, marks_opener hb]
      rfl
    · simp [head.robot, head.dot, head.name, value.opening, value.number, value.closing]
    · simp [Segment.isWellFormed, isHeader, head.robot, head.dot, head.name, value.opening, value.number,
        value.closing]

theorem exists_head_of_kinds {words : List Token} {method : Method} {kinds : List TokenKind}
    (h : words.map Token.kind = .identifier :: .dot :: .method method :: kinds) :
    ∃ robot dot name rest, words = robot :: dot :: name :: rest ∧ CallHead robot dot name method ∧
      rest.map Token.kind = kinds := by
  simp only [List.map_eq_cons_iff] at h
  obtain ⟨robot, _, rfl, hr, dot, _, rfl, hd, name, rest, rfl, hm, hk⟩ := h
  exact ⟨robot, dot, name, rest, rfl, ⟨hr, hd, hm⟩, hk⟩

theorem exists_enclosed_of_kinds {words : List Token}
    (h : words.map Token.kind = [.openParen, .number, .closeParen]) :
    ∃ opening number closing, words = [opening, number, closing] ∧ Enclosed opening number closing := by
  simp only [List.map_eq_cons_iff, List.map_eq_nil_iff] at h
  obtain ⟨opening, _, rfl, ho, number, _, rfl, hn, closing, _, rfl, hc, rfl⟩ := h
  exact ⟨opening, number, closing, rfl, ho, hn, hc⟩

theorem exists_complete_of_isSentence {words ts : List Token} (h : isSentence (words.map Token.kind) = true)
    (hd : Detached ts) : ∃ sentence, Complete (words ++ ts) sentence := by
  unfold isSentence at h
  split at h
  · next kinds =>
    simp only [List.map_eq_cons_iff, List.map_eq_nil_iff] at kinds
    obtain ⟨keyword, _, rfl, hk, name, _, rfl, hn, rfl⟩ := kinds
    exact ⟨_, .declaration hk hn⟩
  · next m kinds =>
    obtain ⟨robot, dot, name, rest, rfl, head, kinds⟩ := exists_head_of_kinds kinds
    obtain rfl := List.map_eq_nil_iff.mp kinds
    exact ⟨_, .bareCall head (beq_iff_eq.mp h) hd.1 hd.2⟩
  · next m kinds =>
    obtain ⟨robot, dot, name, rest, rfl, head, kinds⟩ := exists_head_of_kinds kinds
    simp only [List.map_eq_cons_iff, List.map_eq_nil_iff] at kinds
    obtain ⟨opening, _, rfl, ho, closing, _, rfl, hc, rfl⟩ := kinds
    exact ⟨_, .emptyCall head (beq_iff_eq.mp h) ho hc⟩
  · next m kinds =>
    obtain ⟨robot, dot, name, rest, rfl, head, kinds⟩ := exists_head_of_kinds kinds
    simp only [List.map_eq_cons_iff, List.map_eq_nil_iff] at kinds
    obtain ⟨sign, _, rfl, hs, number, _, rfl, hn, rfl⟩ := kinds
    simp only [Bool.and_eq_true, beq_iff_eq, bne_iff_ne] at h
    exact ⟨_, .assignment head h.1 h.2 hs hn⟩
  · next m kinds =>
    obtain ⟨robot, dot, name, rest, rfl, head, kinds⟩ := exists_head_of_kinds kinds
    obtain ⟨opening, number, closing, rfl, value⟩ := exists_enclosed_of_kinds kinds
    simp only [Bool.and_eq_true, beq_iff_eq, bne_iff_ne] at h
    exact ⟨_, .valueCall head h.1 h.2 value⟩
  · simp at h

theorem exists_complete_of_isHeader {words ts : List Token} {brace : Token}
    (h : isHeader (words.map Token.kind) = true) (hb : brace.kind = .openBrace) :
    ∃ sentence, Complete (words ++ brace :: ts) sentence := by
  obtain ⟨robot, dot, name, rest, rfl, head, kinds⟩ := exists_head_of_kinds (beq_iff_eq.mp h)
  obtain ⟨opening, count, closing, rfl, value⟩ := exists_enclosed_of_kinds kinds
  exact ⟨_, .header head value hb⟩

section Broken
variable {mark : WordMark} {t brace : Token} {words inner rest ts : List Token}

/-- Words that are no complete sentence, nor a header in front of its opener, are a broken segment. -/
theorem not_wellFormed {next : Option WordMark} (hm : mark ≠ .opener)
    (hc : ∀ u ∈ t :: inner, u.kind ≠ .closeBrace)
    (incomplete : ∀ sentence, ¬Complete (t :: inner ++ rest) sentence) (hd : Detached rest)
    (headless : next = some .opener → isHeader ((t :: inner).map Token.kind) = false) :
    Segment.isWellFormed ⟨mark, t :: inner⟩ next = false := by
  cases mark with
  | inner => rfl
  | opener => exact absurd rfl hm
  | start =>
    have sentence : isSentence ((t :: inner).map Token.kind) = false := by
      cases h : isSentence ((t :: inner).map Token.kind) with
      | false => rfl
      | true =>
        obtain ⟨sentence, complete⟩ := exists_complete_of_isSentence h hd
        exact absurd complete (incomplete sentence)
    have brace : ((t :: inner).map Token.kind == [.closeBrace]) = false := by
      simp [hc t (by simp)]
    have header : (isHeader ((t :: inner).map Token.kind) && next == some .opener) = false := by
      by_cases h : next = some .opener
      · rw [headless h]
        rfl
      · simp [h]
    simp only [Segment.isWellFormed, sentence, brace, header, Bool.or_self]

theorem isBoundary_of_resume (h : resume (t :: ts) = t :: ts) : isBoundary t ts = true := by
  by_cases start : isBoundary t ts = true
  · exact start
  · have shorter := (resume_isSuffix ts).length_le
    simp only [resume, if_neg start] at h
    rw [h, List.length_cons] at shorter
    omega

theorem detached_of_resume (h : resume ts = ts) : Detached ts := by
  cases ts with
  | nil => simp [Detached, nextKind]
  | cons t ts =>
    have start := isBoundary_of_resume h
    simp only [isBoundary, Bool.or_eq_true, Bool.and_eq_true, beq_iff_eq] at start
    rcases start with (hk | hk) | ⟨hk, -⟩ <;> simp [Detached, nextKind, hk]

theorem countBroken_resume (h : resume rest = rest)
    (broken : ∀ next, next ≠ some .opener → Segment.isWellFormed ⟨mark, words⟩ next = false) :
    countBroken (cut mark words (marked rest)) = 1 + countBroken (segments rest) := by
  cases rest with
  | nil =>
    have last := broken none (by simp)
    have leading : Segment.isWellFormed ⟨.inner, []⟩ none = true := rfl
    simp [marked, marks, cut, segments, countBroken, last, leading]
  | cons t ts =>
    have last := broken (some .start) (by simp)
    rw [segments, marked, marks_boundary (isBoundary_of_resume h), countBroken_start]
    simp [cut, countBroken, head?_cut, last]

theorem countBroken_opener :
    countBroken (cut mark words ((brace, .opener) :: marked rest)) =
      (if Segment.isWellFormed ⟨mark, words⟩ (some .opener) then 0 else 1) + countBroken (segments rest) := by
  have settled : Settled .opener [brace] rest := by
    intro lead next _
    cases lead <;> simp [Segment.isWellFormed]
  simp only [cut, countBroken, head?_cut, settled.countBroken_marked]

end Broken

section Sentence
variable {t : Token} {ts : List Token} {sentence : Sentence}

/-- The words of one sentence, cut from those behind it. No brace closes in them, and their segment is broken exactly
when the sentence is. -/
structure CutsOff (t : Token) (ts : List Token) (sentence : Sentence) (mark : WordMark) (inner : List Token) :
    Prop where
  notOpener : mark ≠ .opener
  notClosing : ∀ u ∈ t :: inner, u.kind ≠ .closeBrace
  words : marked (t :: ts) =
    (t, mark) :: (innerWords inner ++ (sentence.block.toList.map (·, .opener) ++ marked sentence.rest))
  count : countBroken (cut mark (t :: inner) (sentence.block.toList.map (·, .opener) ++ marked sentence.rest)) =
    (sentence.events.filterMap Event.fault?).length + countBroken (segments sentence.rest)

theorem cutsOff_complete (complete : Complete (t :: ts) sentence) :
    ∃ inner, CutsOff t ts sentence .start inner := by
  obtain ⟨inner, hm, hw, formed⟩ := marked_complete complete
  have faultless : sentence.events.filterMap Event.fault? = [] := by cases complete <;> rfl
  refine ⟨inner, by simp, hw, hm, ?_⟩
  rw [faultless, List.length_nil]
  obtain ⟨events, block, rest⟩ := sentence
  cases block with
  | none => exact formed.countBroken_marked.trans (Nat.zero_add _).symm
  | some brace =>
    have whole : Segment.isWellFormed ⟨.start, t :: inner⟩ (some .opener) = true := formed
    rw [Option.toList_some, List.map_singleton, List.singleton_append, countBroken_opener, whole]
    rfl

theorem cutsOff_brokenHeader {dot name : Token} {cause : Fault} {recovery : Option Recovery}
    (head : CallHead t dot name .repetir) (incomplete : ∀ sentence, ¬Complete (t :: dot :: name :: ts) sentence) :
    ∃ inner, CutsOff t (dot :: name :: ts) (.ofHeader cause recovery ts) .start inner := by
  obtain ⟨junk, hm, hw, hj, hr⟩ := marks_findBlock ts
  have hb : ∀ brace, (findBlock ts).1 = some brace → brace.kind = .openBrace := fun brace => kind_findBlock
  have words : marked (t :: dot :: name :: ts) =
      (t, .start) :: (innerWords (dot :: name :: junk) ++
        ((findBlock ts).1.toList.map (·, .opener) ++ marked (findBlock ts).2)) := by
    rw [marked_head head, beq_self_eq_true, hm]
    rfl
  have notClosing : ∀ u ∈ t :: dot :: name :: junk, u.kind ≠ .closeBrace := by
    simpa [head.robot, head.dot, head.name] using hj
  refine ⟨dot :: name :: junk, by simp, notClosing, words, ?_⟩
  dsimp only [Sentence.ofHeader]
  generalize findBlock ts = found at hw hr hb ⊢
  obtain ⟨block, rest⟩ := found
  subst hw
  cases block with
  | none =>
    have stop : resume rest = rest := hr rfl
    refine countBroken_resume stop fun next hn => ?_
    exact not_wellFormed (by simp) notClosing incomplete (detached_of_resume stop) fun h => absurd h hn
  | some brace =>
    -- the brace ends the segment, so only a header without its brace could still be well formed
    have opens : brace.kind = .openBrace := hb brace rfl
    have detached : Detached (brace :: rest) := by simp [Detached, nextKind, opens]
    have broken : Segment.isWellFormed ⟨.start, t :: dot :: name :: junk⟩ (some .opener) = false := by
      refine not_wellFormed (by simp) notClosing incomplete detached fun _ => ?_
      cases h : isHeader ((t :: dot :: name :: junk).map Token.kind) with
      | false => rfl
      | true =>
        obtain ⟨sentence, complete⟩ : ∃ sentence, Complete (t :: dot :: name :: junk ++ brace :: rest) sentence :=
          exists_complete_of_isHeader h opens
        exact absurd complete (incomplete sentence)
    rw [Option.toList_some, List.map_singleton, List.singleton_append, countBroken_opener, broken]
    rfl

theorem marked_incomplete (incomplete : ∀ sentence, ¬Complete (t :: ts) sentence)
    (headless : ∀ dot name rest, ts = dot :: name :: rest → ¬CallHead t dot name .repetir) :
    ∃ mark, mark ≠ .opener ∧ marked (t :: ts) = (t, mark) :: marked ts := by
  by_cases start : isBoundary t ts = true
  · refine ⟨.start, by simp, ?_⟩
    have noHeader : (t.kind == .identifier && nextKind ts.tail == .method .repetir) = false := by
      cases h : t.kind == .identifier && nextKind ts.tail == .method .repetir with
      | false => rfl
      | true =>
        obtain ⟨hr, hm⟩ : t.kind = .identifier ∧ nextKind ts.tail = .method .repetir := by simpa using h
        have hd : nextKind ts = .dot := by simpa [isBoundary, hr] using start
        obtain ⟨dot, behind, rfl, hd⟩ := exists_cons_of_nextKind hd (by simp)
        obtain ⟨name, rest, rfl, hm⟩ := exists_cons_of_nextKind hm (by simp)
        exact absurd ⟨hr, hd, hm⟩ (headless dot name rest rfl)
    rw [marked, marks_boundary start, noHeader]
    -- a keyword changes the mark of a name only, and with a name behind it it would be a declaration
    by_cases hk : t.kind = .robot
    · have unnamed : nextKind ts ≠ .identifier := by
        intro named
        obtain ⟨name, rest, rfl, hn⟩ := exists_cons_of_nextKind named (by simp)
        exact incomplete _ (.declaration hk hn)
      rw [beq_iff_eq.mpr hk, marks_afterKeyword unnamed]
      rfl
    · rw [beq_eq_false_iff_ne.mpr hk]
      rfl
  · refine ⟨.inner, by simp, ?_⟩
    rw [marked, marks_inner (by simpa using start) (by simp)]
    rfl

theorem cutsOff_broken {cause : Fault} (hc : t.kind ≠ .closeBrace)
    (incomplete : ∀ sentence, ¬Complete (t :: ts) sentence)
    (headless : ∀ dot name rest, ts = dot :: name :: rest → ¬CallHead t dot name .repetir) :
    ∃ mark inner, CutsOff t ts ⟨[.fault cause (some .statement)], none, resume ts⟩ mark inner := by
  obtain ⟨mark, hm, hw⟩ := marked_incomplete incomplete headless
  obtain ⟨junk, hj, rest, hn⟩ := marked_resume ts
  have notClosing : ∀ u ∈ t :: junk, u.kind ≠ .closeBrace := by simpa [hc] using hn
  have stop := resume_resume ts
  refine ⟨mark, junk, hm, notClosing, ?_, ?_⟩
  · rw [hw, hj]
    rfl
  · refine countBroken_resume stop fun next hn => ?_
    rw [rest] at incomplete
    exact not_wellFormed hm notClosing incomplete (detached_of_resume stop) fun h => absurd h hn

theorem exists_cutsOff (stop : Token) (hc : t.kind ≠ .closeBrace) :
    ∃ mark inner, CutsOff t ts (readStatement stop t ts) mark inner := by
  have reads := reads_readStatement stop t ts
  generalize readStatement stop t ts = sentence at reads
  cases reads with
  | complete complete => exact ⟨_, cutsOff_complete complete⟩
  | brokenHeader head hf incomplete => exact ⟨_, cutsOff_brokenHeader head incomplete⟩
  | broken hf incomplete headless => exact cutsOff_broken hc incomplete headless

theorem CutsOff.countBroken_segments {mark : WordMark} {inner : List Token} (h : CutsOff t ts sentence mark inner) :
    countBroken (segments (t :: ts)) =
      (sentence.events.filterMap Event.fault?).length + countBroken (segments sentence.rest) := by
  rw [← h.count, segments, h.words]
  cases mark with
  | start =>
    rw [countBroken_start, cut_innerWords]
    rfl
  | inner =>
    simp only [cut, cut_innerWords]
    rfl
  | opener => exact absurd rfl h.notOpener

theorem pairBraces_innerWords {blocks words : List Token} {ms : List (Token × WordMark)}
    (h : ∀ u ∈ words, u.kind ≠ .closeBrace) :
    pairBraces blocks (innerWords words ++ ms) = pairBraces blocks ms := by
  induction words with
  | nil => rfl
  | cons u words ih =>
    obtain ⟨hu, hw⟩ := List.forall_mem_cons.mp h
    have step : innerWords (u :: words) ++ ms = (u, .inner) :: (innerWords words ++ ms) := rfl
    rw [step, pairBraces_passed (by simp) hu, ih hw]

theorem CutsOff.pairBraces_marked {mark : WordMark} {inner : List Token} (h : CutsOff t ts sentence mark inner)
    (blocks : List Token) : pairBraces blocks (marked (t :: ts)) =
      pairBraces (sentence.block.toList ++ blocks) (marked sentence.rest) := by
  obtain ⟨first, others⟩ := List.forall_mem_cons.mp h.notClosing
  rw [h.words, pairBraces_passed h.notOpener first, pairBraces_innerWords others]
  cases sentence.block <;> rfl

end Sentence

theorem marked_closeBrace {t : Token} {ts : List Token} (h : t.kind = .closeBrace) :
    marked (t :: ts) = (t, .start) :: marked ts := by
  rw [marked, marks_boundary (by simp [isBoundary, h]), h]
  rfl

theorem countBroken_closeBrace {t : Token} {ts : List Token} (h : t.kind = .closeBrace) :
    countBroken (segments (t :: ts)) = countBroken (segments ts) := by
  have settled : Settled .start [t] ts := by
    intro lead next _
    cases lead <;> simp [Segment.isWellFormed, isSentence, isHeader, h]
  rw [segments, marked_closeBrace h, countBroken_start]
  exact settled.countBroken_marked

/-- One fault for each broken segment, each brace that closes nothing and each block that nothing closes. -/
theorem length_faults_readBlocks (stop : Token) (blocks ts : List Token) :
    ((readBlocks stop blocks ts).filterMap Event.fault?).length =
      countBroken (segments ts) + (pairBraces blocks (marked ts)).1.length +
        (pairBraces blocks (marked ts)).2.length := by
  fun_induction readBlocks stop blocks ts with
  | case1 blocks =>
    have unclosed : ∀ blocks : List Token,
        ((blocks.map fun brace => Event.fault (.unclosedBlock brace stop) none).filterMap Event.fault?).length =
          blocks.length := by
      intro blocks
      induction blocks with
      | nil => rfl
      | cons brace blocks ih => simp [Event.fault?]
    rw [unclosed]
    exact (Nat.zero_add _).symm
  | case2 t ts hc ih =>
    rw [countBroken_closeBrace hc, marked_closeBrace hc, pairBraces_stray (by simp) hc]
    simp only [List.filterMap_cons, Event.fault?, List.length_cons, ih]
    omega
  | case3 t ts hc brace outer ih =>
    rw [countBroken_closeBrace hc, marked_closeBrace hc, pairBraces_closed (by simp) hc, ← ih]
    rfl
  | case4 blocks t ts hc sentence ih =>
    -- the faults of the sentence are its broken segments, and its block is the opener that is pushed
    obtain ⟨mark, inner, cuts⟩ : ∃ mark inner, CutsOff t ts sentence mark inner := exists_cutsOff stop hc
    rw [List.filterMap_append, List.length_append, ih, cuts.countBroken_segments, cuts.pairBraces_marked]
    omega

end ArmScript
