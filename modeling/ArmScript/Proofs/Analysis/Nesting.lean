import Mathlib.Data.List.Basic
import ArmScript.Proofs.Analysis.Braces
import ArmScript.Token.Stream

/-!
Scripts whose braces pair up as they are written. Where each opening brace opens a block, each block is closed by the
brace that closes it in the text. An opening brace that opens none, such as the one behind a misspelt `repetir`, leaves
one closing brace too many, and no block open.
-/
set_option autoImplicit false

namespace ArmScript

def balances (depth : Nat) : List Token → Bool
  | [] => depth == 0
  | t :: ts =>
    if t.kind = .openBrace then balances (depth + 1) ts
    else if t.kind = .closeBrace then depth != 0 && balances (depth - 1) ts
    else balances depth ts

/-- The closing braces of a text, each with the brace that it closes. Those given were opened before it. -/
def textPairs (blocks : List Token) : List Token → List (Token × Token)
  | [] => []
  | t :: ts =>
    if t.kind = .openBrace then textPairs (t :: blocks) ts
    else if t.kind = .closeBrace then
      match blocks with
      | [] => textPairs [] ts
      | brace :: outer => (brace, t) :: textPairs outer ts
    else textPairs blocks ts

def closings (blocks : List Token) : List Event → List (Token × Token)
  | [] => []
  | .opened brace :: events => closings (brace :: blocks) events
  | .closed t :: events =>
    match blocks with
    | [] => closings [] events
    | brace :: outer => (brace, t) :: closings outer events
  | _ :: events => closings blocks events

def unopened (words : List (Token × WordMark)) : List Token :=
  (words.filter fun word => word.1.kind == .openBrace && word.2 != .opener).map Prod.fst

/-- The head of a call of a name that no method has, with nothing behind it that starts a sentence, closes a block or
opens one. A name that a keyword declares is no head. -/
def Misnamed (before : List Token) : Prop :=
  ∃ earlier robot dot name between, before = earlier ++ robot :: dot :: name :: between ∧
    robot.kind = .identifier ∧ dot.kind = .dot ∧ name.kind = .identifier ∧ endsWithKeyword earlier = false ∧
    Quiet between

theorem unopened_cons_lost {t : Token} {mark : WordMark} (opens : t.kind = .openBrace) (hm : mark ≠ .opener)
    (words : List (Token × WordMark)) : unopened ((t, mark) :: words) = t :: unopened words := by
  simp [unopened, opens, hm]

theorem unopened_cons {t : Token} {mark : WordMark} (h : t.kind = .openBrace → mark = .opener)
    (words : List (Token × WordMark)) : unopened ((t, mark) :: words) = unopened words := by
  have kept : (t.kind == .openBrace && mark != .opener) = false := by simpa using h
  rw [unopened, List.filter_cons_of_neg (by simp [kept]), unopened]

/-- Of the closing braces of a balanced text, as many find no block open as opening braces have opened none. -/
theorem pairBraces_of_balances {blocks : List Token} {depth : Nat} {words : List (Token × WordMark)}
    (openers : ∀ t, (t, .opener) ∈ words → t.kind = .openBrace) (inside : blocks.length ≤ depth)
    (h : balances depth (words.map Prod.fst) = true) :
    (pairBraces blocks words).2 = [] ∧
      (pairBraces blocks words).1.length + blocks.length = (unopened words).length + depth := by
  induction words generalizing blocks depth with
  | nil =>
    obtain rfl : depth = 0 := by simpa [balances] using h
    obtain rfl := List.length_eq_zero_iff.mp (Nat.le_zero.mp inside)
    exact ⟨rfl, rfl⟩
  | cons word words ih =>
    obtain ⟨t, mark⟩ := word
    have later : ∀ u, (u, .opener) ∈ words → u.kind = .openBrace := fun u hu => openers u (List.mem_cons_of_mem _ hu)
    by_cases opens : t.kind = .openBrace
    · have deeper : balances (depth + 1) (words.map Prod.fst) = true := by simpa [balances, opens] using h
      by_cases opener : mark = .opener
      · obtain ⟨closed, count⟩ := @ih (t :: blocks) _ later (Nat.succ_le_succ inside) deeper
        have pairs : pairBraces blocks ((t, mark) :: words) = pairBraces (t :: blocks) words := by
          simp [pairBraces, opener]
        rw [pairs, unopened_cons fun _ => opener]
        simp only [List.length_cons] at count
        exact ⟨closed, by omega⟩
      · obtain ⟨closed, count⟩ := ih later (Nat.le_succ_of_le inside) deeper
        rw [pairBraces_passed opener (by simp [opens]), unopened_cons_lost opens opener, List.length_cons]
        exact ⟨closed, by omega⟩
    · have opener : mark ≠ .opener := by
        rintro rfl
        exact opens (openers t List.mem_cons_self)
      rw [unopened_cons fun brace => absurd brace opens]
      by_cases closes : t.kind = .closeBrace
      · obtain ⟨positive, shallower⟩ : depth ≠ 0 ∧ balances (depth - 1) (words.map Prod.fst) = true := by
          simpa [balances, opens, closes] using h
        cases blocks with
        | nil =>
          obtain ⟨closed, count⟩ := @ih [] _ later (Nat.zero_le _) shallower
          rw [pairBraces_stray opener closes]
          simp only [List.length_cons, List.length_nil] at count ⊢
          exact ⟨closed, by omega⟩
        | cons brace outer =>
          simp only [List.length_cons] at inside
          obtain ⟨closed, count⟩ := @ih outer _ later (by omega) shallower
          rw [pairBraces_closed opener closes, List.length_cons]
          exact ⟨closed, by omega⟩
      · have level : balances depth (words.map Prod.fst) = true := by simpa [balances, opens, closes] using h
        rw [pairBraces_passed opener closes]
        exact ih later inside level

theorem textPairs_append {words : List Token} (h : ∀ t ∈ words, t.kind ≠ .openBrace ∧ t.kind ≠ .closeBrace)
    (blocks ts : List Token) : textPairs blocks (words ++ ts) = textPairs blocks ts := by
  induction words with
  | nil => rfl
  | cons t words ih =>
    obtain ⟨⟨opens, closes⟩, others⟩ := List.forall_mem_cons.mp h
    rw [List.cons_append, textPairs.eq_def]
    simp only [if_neg opens, if_neg closes, ih others]

theorem unopened_append (as bs : List (Token × WordMark)) : unopened (as ++ bs) = unopened as ++ unopened bs := by
  rw [unopened, List.filter_append, List.map_append, unopened, unopened]

theorem ne_openBrace_of_unopened {words : List (Token × WordMark)} (h : unopened words = []) {t : Token}
    {mark : WordMark} (member : (t, mark) ∈ words) (hm : mark ≠ .opener) : t.kind ≠ .openBrace := by
  intro opens
  have kept : (t, mark) ∈ words.filter fun word => word.1.kind == .openBrace && word.2 != .opener :=
    List.mem_filter.mpr ⟨member, by simp [opens, hm]⟩
  rw [List.map_eq_nil_iff.mp h] at kept
  cases kept

theorem Reads.closings_append {ts : List Token} {sentence : Sentence} (h : Reads ts sentence) (blocks : List Token)
    (events : List Event) :
    closings blocks (sentence.events ++ events) = closings (sentence.block.toList ++ blocks) events := by
  cases h with
  | complete complete => cases complete <;> rfl
  | brokenHeader head hc incomplete =>
    simp only [Sentence.ofHeader]
    cases (findBlock _).1 <;> rfl
  | broken hc incomplete headless => rfl

theorem closings_readBlocks (stop : Token) (blocks ts : List Token) (h : unopened (marked ts) = []) :
    closings blocks (readBlocks stop blocks ts) = textPairs blocks ts := by
  fun_induction readBlocks stop blocks ts with
  | case1 blocks =>
    have silent : ∀ braces : List Token,
        closings blocks (braces.map fun brace => .fault (.unclosedBlock brace stop) none) = [] := by
      intro braces
      induction braces with
      | nil => rfl
      | cons brace braces ih => exact ih
    exact silent blocks
  | case2 t ts hc ih =>
    rw [marked_closeBrace hc, unopened_cons (by simp [hc])] at h
    rw [textPairs.eq_def]
    simpa [hc, closings] using ih h
  | case3 t ts hc brace outer ih =>
    rw [marked_closeBrace hc, unopened_cons (by simp [hc])] at h
    rw [textPairs.eq_def]
    simpa [hc, closings] using ih h
  | case4 blocks t ts hc sentence ih =>
    obtain ⟨mark, inner, cuts⟩ : ∃ mark inner, CutsOff t ts sentence mark inner := exists_cutsOff stop hc
    have reads : Reads (t :: ts) sentence := reads_readStatement stop t ts
    have split : t :: ts = t :: inner ++ (sentence.block.toList ++ sentence.rest) := by
      have words := congrArg (List.map Prod.fst) cuts.words
      simpa [innerWords, map_fst_marked, Function.comp_def] using words
    have whole : ∀ {u m}, (u, m) ∈ (t, mark) :: (innerWords inner ++ sentence.block.toList.map (·, .opener)) →
        (u, m) ∈ marked (t :: ts) := by
      intro u m member
      rw [cuts.words, ← List.append_assoc]
      exact List.mem_append_left (marked sentence.rest) member
    have braceless : ∀ u ∈ t :: inner, u.kind ≠ .openBrace ∧ u.kind ≠ .closeBrace := by
      refine fun u hu => ⟨?_, cuts.notClosing u hu⟩
      rcases List.mem_cons.mp hu with rfl | hu
      · exact ne_openBrace_of_unopened h (whole List.mem_cons_self) cuts.notOpener
      · have word : (u, .inner) ∈ innerWords inner := List.mem_map_of_mem hu
        exact ne_openBrace_of_unopened h (whole (List.mem_cons_of_mem _ (List.mem_append_left _ word))) (by simp)
    have later : unopened (marked sentence.rest) = [] := by
      rw [cuts.words, ← List.append_assoc, ← List.cons_append, unopened_append] at h
      exact (List.append_eq_nil_iff.mp h).2
    rw [reads.closings_append, ih later, split, textPairs_append braceless]
    cases hb : sentence.block with
    | none => rfl
    | some brace =>
      have opens : brace.kind = .openBrace := by
        have opener : (brace, .opener) ∈ marked (t :: ts) := whole (by simp [hb])
        exact kind_of_opener opener
      simp [textPairs, opens]

theorem unopened_marked_eq_nil_iff (ts : List Token) :
    unopened (marked ts) = [] ↔
      ∀ before brace after, ts = before ++ brace :: after → brace.kind = .openBrace → Opens before brace := by
  constructor
  · intro h before brace after split opens
    obtain ⟨mark, found⟩ : ∃ mark, (marked ts)[before.length]? = some (brace, mark) := by
      have word : ((marked ts).map Prod.fst)[before.length]? = some brace := by simp [map_fst_marked, split]
      rw [List.getElem?_map, Option.map_eq_some_iff] at word
      obtain ⟨⟨t, mark⟩, found, rfl⟩ := word
      exact ⟨mark, found⟩
    by_cases hm : mark = .opener
    · subst hm split
      exact (marked_eq_opener_iff before after brace).mp found
    · exact absurd opens (ne_openBrace_of_unopened h (List.mem_of_getElem? found) hm)
  · intro h
    refine List.map_eq_nil_iff.mpr (List.filter_eq_nil_iff.mpr ?_)
    rintro ⟨t, mark⟩ member
    obtain ⟨i, hi⟩ := List.mem_iff_getElem?.mp member
    have word : ts[i]? = some t := by
      rw [← map_fst_marked ts, List.getElem?_map, hi]
      rfl
    obtain ⟨inside, here⟩ := List.getElem?_eq_some_iff.mp word
    have split : ts = ts.take i ++ t :: ts.drop (i + 1) := by
      rw [← here, List.getElem_cons_drop, List.take_append_drop]
    have found : t.kind = .openBrace → mark = .opener := by
      intro opens
      have opener := (marked_eq_opener_iff (ts.take i) (ts.drop (i + 1)) t).mpr (h _ _ _ split opens)
      rw [← split, List.length_take, Nat.min_eq_left (Nat.le_of_lt inside), hi] at opener
      exact congrArg Prod.snd (Option.some.inj opener)
    simpa using found

/-- In a script whose braces pair up in the text, no block is left open, and each opening brace that opens none has its
own closing brace that closes none. So nothing is wrong with the braces exactly when each of them opens the block of a
`repetir`, and then each block is closed by the brace that closes it in the text. -/
theorem Session.nesting_of_balanced (s : Session) (tokens : List Token) :
    let words := (tokens.filter fun t => t.kind != .invalid).takeWhile fun t => t.kind != .endOfInput
    let marks := marked words
    let strays := (s.added tokens).filter Diagnostic.isOfStrayBrace
    balances 0 words = true →
      (s.added tokens).filter Diagnostic.isOfOpenBlock = [] ∧ strays.length = (unopened marks).length ∧
        (∀ before brace after, words = before ++ brace :: after →
          (marks[before.length]? = some (brace, .opener) ↔ Opens before brace)) ∧
        (strays = [] ↔ ∀ before brace after, words = before ++ brace :: after → brace.kind = .openBrace →
          Opens before brace) ∧
        (strays = [] → closings [] (Script.ofTokens tokens).read = textPairs [] words) := by
  intro words marks strays balanced
  have body : (Script.ofTokens tokens).body = words := rfl
  obtain ⟨closed, count⟩ : (pairBraces [] marks).2 = [] ∧ (pairBraces [] marks).1.length = (unopened marks).length := by
    have text : balances 0 (marks.map Prod.fst) = true := by
      rw [map_fst_marked]
      exact balanced
    exact pairBraces_of_balances (fun t => kind_of_opener) (Nat.le_refl 0) text
  have number : strays.length = (unopened marks).length := by
    simp only [strays]
    rw [s.filter_isOfStrayBrace_added, List.length_map, body, count]
  have opened : strays = [] ↔ unopened marks = [] := by
    rw [← List.length_eq_zero_iff, number, List.length_eq_zero_iff]
  refine ⟨?_, number, fun before brace after split => ?_, opened.trans (unopened_marked_eq_nil_iff words),
    fun none => closings_readBlocks (Script.ofTokens tokens).stop [] words (opened.mp none)⟩
  · rw [s.filter_isOfOpenBlock_added, body, closed, List.map_nil]
  · simp only [marks]
    rw [split]
    exact marked_eq_opener_iff before after brace

/-- A block in a block, the inner one with a broken header. -/
theorem nesting_of_broken_header :
    let tokens := tokenize "a.repetir(2) { b.repetir = x { b.iniciar } a.base }"
    let words := (tokens.filter fun t => t.kind != .invalid).takeWhile fun t => t.kind != .endOfInput
    balances 0 words = true ∧
      (Session.empty.added tokens).filter Diagnostic.isOfOpenBlock = [] ∧
      (Session.empty.added tokens).filter Diagnostic.isOfStrayBrace = [] := by
  intro tokens words
  have balanced : balances 0 words = true := by decide +kernel
  obtain ⟨closed, number, -⟩ := Session.empty.nesting_of_balanced tokens balanced
  have none : unopened (marked words) = [] := by decide +kernel
  exact ⟨balanced, closed, List.length_eq_zero_iff.mp (number.trans (congrArg List.length none))⟩

/-- One misspelt header is enough for a brace that closes nothing, though the braces of the script pair up and each
block has a header. -/
theorem misnamed_not_nested :
    ¬∀ (s : Session) (tokens : List Token),
      let words := (tokens.filter fun t => t.kind != .invalid).takeWhile fun t => t.kind != .endOfInput
      balances 0 words = true →
        (∀ before brace after, words = before ++ brace :: after → brace.kind = .openBrace →
          Opens before brace ∨ Misnamed before) →
        (s.added tokens).filter Diagnostic.isOfBrace = [] := by
  intro nested
  let tokens := tokenize "Robot r1\nr1.repetr(3) { r1.iniciar }"
  let words := (tokens.filter fun t => t.kind != .invalid).takeWhile fun t => t.kind != .endOfInput
  have stray : (Session.empty.added tokens).filter Diagnostic.isOfBrace ≠ [] := by decide +kernel
  refine stray (nested .empty tokens (by decide +kernel) fun before brace after (split : words = _) opens => .inr ?_)
  have kinds : [.robot, .identifier, .identifier, .dot, .identifier, .openParen, .number, .closeParen] ++
      TokenKind.openBrace :: [.identifier, .dot, .method .iniciar, .closeBrace] = words.map Token.kind := by
    decide +kernel
  rw [split, List.map_append, List.map_cons, opens] at kinds
  -- there is one opening brace only, so what stands before it is known
  have front := ((List.append_cons_inj_of_notMem (by decide) (by decide)).mp kinds).1.symm
  simp only [List.map_eq_cons_iff, List.map_eq_nil_iff] at front
  obtain ⟨keyword, _, rfl, -, arm, _, rfl, ha, robot, _, rfl, hr, dot, _, rfl, hd, name, _, rfl, hn, opening, _, rfl,
    ho, number, _, rfl, hv, closing, _, rfl, hc, rfl⟩ := front
  have free : endsWithKeyword [keyword, arm] = false := by simp [endsWithKeyword, ha]
  refine ⟨[keyword, arm], robot, dot, name, [opening, number, closing], rfl, hr, hd, hn, free, ?_⟩
  simp [quiet_cons_iff, quiet_nil, isBoundary, nextKind, ho, hv, hc]

end ArmScript
