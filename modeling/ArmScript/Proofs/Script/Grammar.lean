import ArmScript.Proofs.Script.Sentence

/-!
The grammar of scripts, as trees that spell out their words. Reading finds no fault exactly in the words of a tree,
and no two trees have the same words.
-/
set_option autoImplicit false

namespace ArmScript

abbrev Word (k : TokenKind) := { t : Token // t.kind = k }

structure CallStart (arity : Arity) where
  robot : Word .identifier
  dot : Word .dot
  method : Method
  name : Word (.method method)
  takes : method.signature.arity = arity
  plain : method ≠ .repetir

inductive Simple where
  | declaration (keyword : Word .robot) (name : Word .identifier)
  | assignment (start : CallStart .unary) (sign : Word .equals) (number : Word .number)
  | valueCall (start : CallStart .unary) (opening : Word .openParen) (number : Word .number)
      (closing : Word .closeParen)
  | bareCall (start : CallStart .nullary)
  | emptyCall (start : CallStart .nullary) (opening : Word .openParen) (closing : Word .closeParen)

structure BlockStart where
  robot : Word .identifier
  dot : Word .dot
  name : Word (.method .repetir)
  opening : Word .openParen
  count : Word .number
  closing : Word .closeParen
  brace : Word .openBrace

/-- Sentences one behind the other. A block holds sentences of its own. -/
inductive Program where
  | done
  | simple (sentence : Simple) (rest : Program)
  | block (start : BlockStart) (body : Program) (close : Word .closeBrace) (rest : Program)

def CallStart.words {arity : Arity} (c : CallStart arity) : List Token := [c.robot, c.dot, c.name]

def Simple.words : Simple → List Token
  | .declaration keyword name => [keyword, name]
  | .assignment start sign number => start.words ++ [sign.val, number.val]
  | .valueCall start opening number closing => start.words ++ [opening.val, number.val, closing.val]
  | .bareCall start => start.words
  | .emptyCall start opening closing => start.words ++ [opening.val, closing.val]

def BlockStart.words (b : BlockStart) : List Token :=
  [b.robot, b.dot, b.name, b.opening, b.count, b.closing, b.brace]

def Program.words : Program → List Token
  | .done => []
  | .simple sentence rest => sentence.words ++ rest.words
  | .block start body close rest => start.words ++ (body.words ++ close.val :: rest.words)

def Program.size : Program → Nat
  | .done => 0
  | .simple _ rest => rest.size + 1
  | .block _ body _ rest => body.size + rest.size + 1

def Simple.event : Simple → Event
  | .declaration _ name => .declaration name
  | .assignment start _ number | .valueCall start _ number _ => .call start.robot start.method (some number.val)
  | .bareCall start | .emptyCall start _ _ => .call start.robot start.method none

def BlockStart.events (b : BlockStart) : List Event :=
  [.call b.robot .repetir (some b.count.val), .opened b.brace]

def Program.events : Program → List Event
  | .done => []
  | .simple sentence rest => sentence.event :: rest.events
  | .block start body close rest => start.events ++ (body.events ++ .closed close :: rest.events)

theorem Program.words_simple_append (sentence : Simple) (rest : Program) (ts : List Token) :
    (simple sentence rest).words ++ ts = sentence.words ++ (rest.words ++ ts) :=
  List.append_assoc _ _ _

theorem Program.words_block_append (start : BlockStart) (body : Program) (close : Word .closeBrace)
    (rest : Program) (ts : List Token) :
    (block start body close rest).words ++ ts = start.words ++ (body.words ++ close.val :: (rest.words ++ ts)) := by
  simp [words]

/-- Words that a call without a value cannot take for its own. -/
def Detached (ts : List Token) : Prop := nextKind ts ≠ .openParen ∧ nextKind ts ≠ .equals

theorem CallStart.head {arity : Arity} (c : CallStart arity) : CallHead c.robot c.dot c.name c.method :=
  ⟨c.robot.property, c.dot.property, c.name.property⟩

theorem Simple.complete (s : Simple) {ts : List Token} (h : Detached ts) :
    Complete (s.words ++ ts) ⟨[s.event], none, ts⟩ := by
  cases s with
  | declaration keyword name => exact .declaration keyword.property name.property
  | assignment start sign number =>
    exact .assignment start.head start.takes start.plain sign.property number.property
  | valueCall start opening number closing =>
    exact .valueCall start.head start.takes start.plain ⟨opening.property, number.property, closing.property⟩
  | bareCall start => exact .bareCall start.head start.takes h.1 h.2
  | emptyCall start opening closing => exact .emptyCall start.head start.takes opening.property closing.property

theorem BlockStart.complete (b : BlockStart) (ts : List Token) :
    Complete (b.words ++ ts) ⟨b.events, some b.brace.val, ts⟩ :=
  .header ⟨b.robot.property, b.dot.property, b.name.property⟩
    ⟨b.opening.property, b.count.property, b.closing.property⟩ b.brace.property

theorem Program.detached_words (p : Program) {ts : List Token} (h : Detached ts) : Detached (p.words ++ ts) := by
  cases p with
  | done => exact h
  | simple sentence rest =>
    cases sentence with
    | declaration keyword name => simp [Detached, words, Simple.words, nextKind, keyword.property]
    | assignment start _ _ | valueCall start _ _ _ | bareCall start | emptyCall start _ _ =>
      simp [Detached, words, Simple.words, CallStart.words, nextKind, start.robot.property]
  | block start body close rest => simp [Detached, words, BlockStart.words, nextKind, start.robot.property]

section Blocks
variable {stop t : Token} {blocks ts : List Token}

theorem readBlocks_sentence (h : t.kind ≠ .closeBrace) :
    readBlocks stop blocks (t :: ts) =
      (readStatement stop t ts).events ++
        readBlocks stop ((readStatement stop t ts).block.toList ++ blocks) (readStatement stop t ts).rest := by
  rw [readBlocks.eq_def]
  simp only [if_neg h]

theorem readBlocks_stray (h : t.kind = .closeBrace) :
    readBlocks stop [] (t :: ts) = .fault (.strayBrace t) none :: readBlocks stop [] ts := by
  rw [readBlocks.eq_def]
  simp only [if_pos h]

theorem readBlocks_closed {brace : Token} (h : t.kind = .closeBrace) :
    readBlocks stop (brace :: blocks) (t :: ts) = .closed t :: readBlocks stop blocks ts := by
  rw [readBlocks.eq_def]
  simp only [if_pos h]

theorem readBlocks_complete {sentence : Sentence} (h : Complete ts sentence) :
    readBlocks stop blocks ts =
      sentence.events ++ readBlocks stop (sentence.block.toList ++ blocks) sentence.rest := by
  cases ts with
  | nil => cases h
  | cons t ts =>
    have start : t.kind ≠ .closeBrace := by
      cases h with
      | declaration hk => simp [hk]
      | assignment head | valueCall head | bareCall head | emptyCall head | header head => simp [head.robot]
    rw [readBlocks_sentence start, readStatement_of_complete h]

/-- The words of a tree are read without a fault, whatever stands behind them. -/
theorem readBlocks_words (p : Program) (h : Detached ts) :
    readBlocks stop blocks (p.words ++ ts) = p.events ++ readBlocks stop blocks ts := by
  induction p generalizing blocks ts with
  | done => rfl
  | simple sentence rest ih =>
    rw [Program.words_simple_append, readBlocks_complete (sentence.complete (rest.detached_words h))]
    simp [Program.events, ih h]
  | block start body close rest hb hr =>
    have closing : Detached (close.val :: (rest.words ++ ts)) := by simp [Detached, nextKind, close.property]
    rw [Program.words_block_append, readBlocks_complete (start.complete _), Option.toList_some,
      List.singleton_append, hb closing, readBlocks_closed close.property, hr h]
    simp [Program.events]

end Blocks

theorem Program.no_fault (p : Program) : ∀ e ∈ p.events, e.fault? = none := by
  induction p with
  | done => simp [events]
  | simple sentence rest ih =>
    have faultless : sentence.event.fault? = none := by cases sentence <;> rfl
    simpa [events, faultless] using ih
  | block start body close rest hb hr =>
    simp only [events, BlockStart.events, List.mem_append, List.mem_cons]
    rintro e ((rfl | rfl | h) | h | rfl | h)
    · rfl
    · rfl
    · simp at h
    · exact hb e h
    · rfl
    · exact hr e h

theorem Program.countStatements_events (p : Program) : countStatements p.events = p.size := by
  induction p with
  | done => rfl
  | simple sentence rest ih =>
    have counted : sentence.event.isStatement = true := by cases sentence <;> rfl
    rw [countStatements] at ih ⊢
    simp [events, size, counted, ih]
  | block start body close rest hb hr =>
    rw [countStatements] at hb hr ⊢
    simp [events, size, BlockStart.events, List.countP_cons, Event.isStatement, hb, hr]

/-- What is left to read inside some open blocks: sentences, and for each block the brace that closes it and the
sentences behind that. -/
inductive Closing : Nat → List Token → Prop where
  | last (p : Program) : Closing 0 p.words
  | close {n : Nat} {ts : List Token} (p : Program) (brace : Word .closeBrace) (h : Closing n ts) :
      Closing (n + 1) (p.words ++ brace.val :: ts)

theorem Closing.simple {n : Nat} {ts : List Token} (sentence : Simple) (h : Closing n ts) :
    Closing n (sentence.words ++ ts) := by
  cases h with
  | last p => exact .last (.simple sentence p)
  | close p brace h =>
    rw [← List.append_assoc]
    exact .close (.simple sentence p) brace h

theorem Closing.block {n : Nat} {ts : List Token} (start : BlockStart) (h : Closing (n + 1) ts) :
    Closing n (start.words ++ ts) := by
  cases h with
  | close body brace h =>
    cases h with
    | last rest => exact .last (.block start body brace rest)
    | close rest outer h =>
      have inner := Closing.close (.block start body brace rest) outer h
      simpa [Program.words] using inner

theorem Closing.complete {blocks ts : List Token} {sentence : Sentence} (h : Complete ts sentence)
    (rest : Closing (sentence.block.toList ++ blocks).length sentence.rest) : Closing blocks.length ts := by
  cases h with
  | @declaration keyword name _ hk hn => exact Closing.simple (.declaration ⟨keyword, hk⟩ ⟨name, hn⟩) rest
  | @assignment robot dot name sign number method _ head takes plain hs hn =>
    exact Closing.simple (.assignment ⟨⟨robot, head.robot⟩, ⟨dot, head.dot⟩, method, ⟨name, head.name⟩, takes, plain⟩
      ⟨sign, hs⟩ ⟨number, hn⟩) rest
  | @valueCall robot dot name opening number closing method _ head takes plain value =>
    exact Closing.simple (.valueCall ⟨⟨robot, head.robot⟩, ⟨dot, head.dot⟩, method, ⟨name, head.name⟩, takes, plain⟩
      ⟨opening, value.opening⟩ ⟨number, value.number⟩ ⟨closing, value.closing⟩) rest
  | @bareCall robot dot name method _ head takes ho he =>
    exact Closing.simple (.bareCall ⟨⟨robot, head.robot⟩, ⟨dot, head.dot⟩, method, ⟨name, head.name⟩, takes,
      ne_repetir_of_nullary takes⟩) rest
  | @emptyCall robot dot name opening closing method _ head takes ho hc =>
    exact Closing.simple (.emptyCall ⟨⟨robot, head.robot⟩, ⟨dot, head.dot⟩, method, ⟨name, head.name⟩, takes,
      ne_repetir_of_nullary takes⟩ ⟨opening, ho⟩ ⟨closing, hc⟩) rest
  | @header robot dot name opening number closing brace _ head value hb =>
    exact Closing.block ⟨⟨robot, head.robot⟩, ⟨dot, head.dot⟩, ⟨name, head.name⟩, ⟨opening, value.opening⟩,
      ⟨number, value.number⟩, ⟨closing, value.closing⟩, ⟨brace, hb⟩⟩ rest

theorem closing_of_faultless {stop : Token} {blocks ts : List Token}
    (h : ∀ e ∈ readBlocks stop blocks ts, e.fault? = none) : Closing blocks.length ts := by
  fun_induction readBlocks stop blocks ts with
  | case1 blocks =>
    cases blocks with
    | nil => exact .last .done
    | cons brace blocks => simp [Event.fault?] at h
  | case2 t ts hc ih => simp [Event.fault?] at h
  | case3 t ts hc brace outer ih => exact .close .done ⟨t, hc⟩ (ih fun e he => h e (by simp [he]))
  | case4 blocks t ts hc sentence ih =>
    have inner := ih fun e he => h e (by simp [he])
    have faultless : ∀ e ∈ sentence.events, e.fault? = none := fun e he => h e (by simp [he])
    -- of the three ways to read a sentence two leave a fault
    have complete : Complete (t :: ts) sentence := by
      have reads : Reads (t :: ts) sentence := reads_readStatement stop t ts
      generalize sentence = read at reads faultless
      cases reads with
      | complete complete => exact complete
      | brokenHeader => simp [Sentence.ofHeader, Event.fault?] at faultless
      | broken => simp [Event.fault?] at faultless
    exact Closing.complete complete inner

theorem Complete.unique {ts us : List Token} {a b : Sentence} (ha : Complete ts a) (hb : Complete us b)
    (h : ts = us) : a = b := by
  subst h
  cases ts with
  | nil => cases ha
  | cons t ts =>
    have read : readStatement t t ts = a := readStatement_of_complete ha
    exact read.symm.trans (readStatement_of_complete hb)

theorem CallStart.eq_of_words {arity : Arity} {c d : CallStart arity} (h : c.words = d.words) : c = d := by
  obtain ⟨⟨robot, hr⟩, ⟨dot, hd⟩, method, ⟨name, hn⟩, takes, plain⟩ := c
  obtain ⟨⟨robot', hr'⟩, ⟨dot', hd'⟩, method', ⟨name', hn'⟩, takes', plain'⟩ := d
  simp only [words, List.cons.injEq, and_true] at h
  obtain ⟨rfl, rfl, rfl⟩ := h
  obtain rfl : method = method' := by simpa [hn] using hn'
  rfl

theorem Word.ne_of_kind {k l : TokenKind} (a : Word k) (b : Word l) (h : k ≠ l) : a.val ≠ b.val := by
  intro same
  exact h (by rw [← a.property, same, b.property])

theorem Simple.eq_of_words {s t : Simple} (h : s.words = t.words) : s = t := by
  cases s with
  | declaration keyword name =>
    cases t with
    | declaration keyword' name' =>
      simp only [words, List.cons.injEq, and_true] at h
      obtain ⟨hk, hn⟩ := h
      rw [Subtype.ext hk, Subtype.ext hn]
    | _ => simp [words, CallStart.words] at h
  | assignment start sign number =>
    cases t with
    | assignment start' sign' number' =>
      obtain ⟨hs, hv⟩ := List.append_inj h rfl
      simp only [List.cons.injEq, and_true] at hv
      rw [CallStart.eq_of_words hs, Subtype.ext hv.1, Subtype.ext hv.2]
    | emptyCall start' opening closing =>
      obtain ⟨-, hv⟩ := List.append_inj h rfl
      exact absurd (List.cons.inj hv).1 (Word.ne_of_kind sign opening (by simp))
    | _ => simp [words, CallStart.words] at h
  | valueCall start opening number closing =>
    cases t with
    | valueCall start' opening' number' closing' =>
      obtain ⟨hs, hv⟩ := List.append_inj h rfl
      simp only [List.cons.injEq, and_true] at hv
      rw [CallStart.eq_of_words hs, Subtype.ext hv.1, Subtype.ext hv.2.1, Subtype.ext hv.2.2]
    | _ => simp [words, CallStart.words] at h
  | bareCall start =>
    cases t with
    | bareCall start' => rw [CallStart.eq_of_words h]
    | _ => simp [words, CallStart.words] at h
  | emptyCall start opening closing =>
    cases t with
    | assignment start' sign number =>
      obtain ⟨-, hv⟩ := List.append_inj h rfl
      exact absurd (List.cons.inj hv).1 (Word.ne_of_kind opening sign (by simp))
    | emptyCall start' opening' closing' =>
      obtain ⟨hs, hv⟩ := List.append_inj h rfl
      simp only [List.cons.injEq, and_true] at hv
      rw [CallStart.eq_of_words hs, Subtype.ext hv.1, Subtype.ext hv.2]
    | _ => simp [words, CallStart.words] at h

theorem BlockStart.eq_of_words {b c : BlockStart} (h : b.words = c.words) : b = c := by
  simp only [words, List.cons.injEq, and_true] at h
  obtain ⟨hr, hd, hn, ho, hc, hs, hb⟩ := h
  cases b
  cases c
  simp only [BlockStart.mk.injEq]
  exact ⟨Subtype.ext hr, Subtype.ext hd, Subtype.ext hn, Subtype.ext ho, Subtype.ext hc, Subtype.ext hs,
    Subtype.ext hb⟩

def Stops (ts : List Token) : Prop := ts = [] ∨ nextKind ts = .closeBrace

theorem Stops.detached {ts : List Token} (h : Stops ts) : Detached ts := by
  rcases h with rfl | h
  · simp [Detached, nextKind]
  · simp [Detached, h]

theorem Simple.not_stops (s : Simple) (ts : List Token) : ¬Stops (s.words ++ ts) := by
  cases s with
  | declaration keyword name => simp [Stops, words, nextKind, keyword.property]
  | assignment start | valueCall start | bareCall start | emptyCall start =>
    simp [Stops, words, CallStart.words, nextKind, start.robot.property]

theorem BlockStart.not_stops (b : BlockStart) (ts : List Token) : ¬Stops (b.words ++ ts) := by
  simp [Stops, words, nextKind, b.robot.property]

/-- Neither the sentences nor the place where they stop can be read off the words in two ways. -/
theorem Program.eq_of_words_append {p q : Program} {r r' : List Token} (hr : Stops r) (hr' : Stops r')
    (h : p.words ++ r = q.words ++ r') : p = q ∧ r = r' := by
  -- both trees are read off the same words: their first sentences agree, and so does what each leaves behind
  induction p generalizing q r r' with
  | done =>
    subst h
    cases q with
    | done => exact ⟨rfl, rfl⟩
    | simple t q => exact absurd (words_simple_append t q r' ▸ hr) (t.not_stops _)
    | block c body close q => exact absurd (words_block_append c body close q r' ▸ hr) (c.not_stops _)
  | simple s p ih =>
    rw [words_simple_append] at h
    have first := s.complete (p.detached_words hr.detached)
    cases q with
    | done =>
      subst h
      exact absurd hr' (s.not_stops _)
    | simple t q =>
      rw [words_simple_append] at h
      have second := t.complete (q.detached_words hr'.detached)
      obtain ⟨rfl, rfl⟩ := ih hr hr' (congrArg Sentence.rest (first.unique second h))
      rw [Simple.eq_of_words (List.append_cancel_right h)]
      exact ⟨rfl, rfl⟩
    | block c body close q =>
      rw [words_block_append] at h
      have second := c.complete (body.words ++ close.val :: (q.words ++ r'))
      have impossible := congrArg Sentence.block (first.unique second h)
      simp at impossible
  | block b body close p hb hp =>
    rw [words_block_append] at h
    have first := b.complete (body.words ++ close.val :: (p.words ++ r))
    cases q with
    | done =>
      subst h
      exact absurd hr' (b.not_stops _)
    | simple t q =>
      rw [words_simple_append] at h
      have second := t.complete (q.detached_words hr'.detached)
      have impossible := congrArg Sentence.block (first.unique second h)
      simp at impossible
    | block c body' close' q =>
      rw [words_block_append] at h
      have second := c.complete (body'.words ++ close'.val :: (q.words ++ r'))
      have inner : Stops (close.val :: (p.words ++ r)) := .inr close.property
      have inner' : Stops (close'.val :: (q.words ++ r')) := .inr close'.property
      obtain ⟨rfl, behind⟩ := hb inner inner' (congrArg Sentence.rest (first.unique second h))
      obtain ⟨hc, behind⟩ := List.cons.inj behind
      obtain ⟨rfl, rfl⟩ := hp hr hr' behind
      obtain rfl : close = close' := Subtype.ext hc
      rw [BlockStart.eq_of_words (List.append_cancel_right h)]
      exact ⟨rfl, rfl⟩

theorem Program.eq_of_words {p q : Program} (h : p.words = q.words) : p = q := by
  have ends : Stops [] := .inl rfl
  exact (Program.eq_of_words_append ends ends (congrArg (· ++ []) h)).1

theorem Script.read_of_program {s : Script} {p : Program} (h : p.words = s.body) : s.read = p.events := by
  have last : Detached [] := by simp [Detached, nextKind]
  have read : readBlocks s.stop [] (p.words ++ []) = p.events ++ readBlocks s.stop [] [] := readBlocks_words p last
  rw [List.append_nil] at read
  rw [Script.read, ← h, read, readBlocks, List.map_nil, List.append_nil]

theorem Script.faultless_iff (s : Script) :
    (∀ e ∈ s.read, e.fault? = none) ↔ ∃ p : Program, p.words = s.body := by
  constructor
  · intro h
    have closing : Closing ([] : List Token).length s.body := closing_of_faultless h
    generalize s.body = body at closing
    cases closing with
    | last p => exact ⟨p, rfl⟩
  · rintro ⟨p, hp⟩
    rw [Script.read_of_program hp]
    exact p.no_fault

end ArmScript
