import ArmScript.Proofs.Script.Grammar

/-!
Reading goes by the kinds of words. Where every word is replaced by one of the same kind, the same happens in the same
order, and what it is about is replaced in the same way. So reading makes up no words of its own.
-/
set_option autoImplicit false

namespace ArmScript

def Fault.map (f : Token → Token) : Fault → Fault
  | .unexpected wanted found => .unexpected wanted (f found)
  | .unknownMethod found => .unknownMethod (f found)
  | .badHeader robot wanted found => .badHeader (f robot) wanted (f found)
  | .missingValue robot method name => .missingValue (f robot) method (f name)
  | .unexpectedValue robot method found => .unexpectedValue (f robot) method (f found)
  | .strayBrace brace => .strayBrace (f brace)
  | .unclosedBlock brace stop => .unclosedBlock (f brace) (f stop)

def Event.map (f : Token → Token) : Event → Event
  | .declaration name => .declaration (f name)
  | .call robot method argument => .call (f robot) method (argument.map f)
  | .opened brace => .opened (f brace)
  | .closed brace => .closed (f brace)
  | .fault cause recovery => .fault (cause.map f) recovery

def Broken.map (f : Token → Token) (b : Broken) : Broken := ⟨b.fault.map f, b.rest.map f⟩

def Sentence.map (f : Token → Token) (s : Sentence) : Sentence :=
  ⟨s.events.map (Event.map f), s.block.map f, s.rest.map f⟩

def mapRead {α : Type} (f : Token → Token) (g : α → α) : Except Broken α → Except Broken α
  | .ok a => .ok (g a)
  | .error broken => .error (broken.map f)

section Map
variable {f : Token → Token} (hf : ∀ t, (f t).kind = t.kind)
include hf

theorem nextKind_map (ts : List Token) : nextKind (ts.map f) = nextKind ts := by
  cases ts with
  | nil => rfl
  | cons t ts => exact hf t

theorem isBoundary_map (t : Token) (rest : List Token) : isBoundary (f t) (rest.map f) = isBoundary t rest := by
  simp only [isBoundary, hf, nextKind_map hf]

theorem resume_map (ts : List Token) : resume (ts.map f) = (resume ts).map f := by
  induction ts with
  | nil => rfl
  | cons t ts ih =>
    simp only [List.map_cons, resume, isBoundary_map hf, ih]
    split <;> rfl

theorem findBlock_map (ts : List Token) :
    findBlock (ts.map f) = ((findBlock ts).1.map f, (findBlock ts).2.map f) := by
  induction ts with
  | nil => rfl
  | cons t ts ih =>
    simp only [List.map_cons, findBlock, isBoundary_map hf, hf, ih]
    split
    · rfl
    · split <;> rfl

end Map

theorem headD_map {α : Type} (f : α → α) (as : List α) (d : α) : (as.map f).headD (f d) = f (as.headD d) := by
  cases as <;> rfl

section Readers
variable {f : Token → Token} (hf : ∀ t, (f t).kind = t.kind) (robot name stop : Token) (method : Method)
  (ts : List Token)
include hf

theorem expect_map (kind : TokenKind) (fault mapped : Token → Fault) (h : ∀ t, mapped (f t) = (fault t).map f) :
    expect kind mapped (f stop) (ts.map f) = mapRead f (Prod.map f (List.map f)) (expect kind fault stop ts) := by
  cases ts with
  | nil => simp [expect, mapRead, Broken.map, h]
  | cons t ts =>
    simp only [List.map_cons, expect, hf]
    split
    · rfl
    · simp [mapRead, Broken.map, h]

theorem expect_unexpected_map (kind : TokenKind) (wanted : Wanted) :
    expect kind (.unexpected wanted) (f stop) (ts.map f) =
      mapRead f (Prod.map f (List.map f)) (expect kind (.unexpected wanted) stop ts) :=
  expect_map hf stop ts kind _ _ fun _ => rfl

theorem readValue_map :
    readValue (f robot) method (f name) (f stop) (ts.map f) =
      mapRead f (Prod.map f (List.map f)) (readValue robot method name stop ts) := by
  unfold readValue
  rw [nextKind_map hf, ← List.map_tail, nextKind_map hf, expect_unexpected_map hf]
  split
  · rfl
  · split
    · rfl
    · cases expect .number (.unexpected .number) stop ts.tail with
      | error broken => rfl
      | ok read =>
        simp only [mapRead, Prod.map_fst, Prod.map_snd, expect_unexpected_map hf]
        cases expect .closeParen (.unexpected .closeParen) stop read.2 <;> rfl
  · rfl

theorem readNoValue_map :
    readNoValue (f robot) method (f stop) (ts.map f) = mapRead f (List.map f) (readNoValue robot method stop ts) := by
  unfold readNoValue
  rw [nextKind_map hf, ← List.map_tail, nextKind_map hf, headD_map, headD_map]
  split
  · split
    · simp [mapRead]
    · rfl
    · rfl
  · rfl
  · rfl

theorem readHeader_map :
    readHeader (f robot) (f name) (f stop) (ts.map f) = mapRead f (Sentence.map f) (readHeader robot name stop ts) := by
  unfold readHeader
  rw [nextKind_map hf, ← List.map_tail, readValue_map hf, headD_map]
  split
  · cases readValue robot .repetir name stop ts with
    | error broken => rfl
    | ok read =>
      simp only [mapRead, Prod.map_fst, Prod.map_snd]
      rw [expect_map hf stop read.2 .openBrace (.badHeader robot .openBrace) _ fun _ => rfl]
      cases expect .openBrace (.badHeader robot .openBrace) stop read.2 <;> rfl
  · rfl
  · rfl
  · rfl

theorem readRepeat_map :
    readRepeat (f robot) (f name) (f stop) (ts.map f) = (readRepeat robot name stop ts).map f := by
  unfold readRepeat
  rw [readHeader_map hf]
  cases readHeader robot name stop ts with
  | ok sentence => rfl
  | error broken =>
    simp only [mapRead, Broken.map, findBlock_map hf, Sentence.map]
    cases (findBlock broken.rest).1 <;> rfl

theorem readCall_map :
    readCall (f robot) (f stop) (ts.map f) = mapRead f (Sentence.map f) (readCall robot stop ts) := by
  unfold readCall
  rw [expect_unexpected_map hf]
  cases expect .dot (.unexpected .dot) stop ts with
  | error broken => rfl
  | ok read =>
    simp only [mapRead, Prod.map_snd, nextKind_map hf, ← List.map_tail, headD_map, readRepeat_map hf, readValue_map hf,
      readNoValue_map hf]
    split
    · rfl
    · split
      · cases readValue robot _ (read.2.headD stop) stop read.2.tail <;> rfl
      · cases readNoValue robot _ stop read.2.tail <;> rfl
    · rfl
    · rfl

end Readers

section Statement
variable {f : Token → Token} (hf : ∀ t, (f t).kind = t.kind)
include hf

theorem readStatement_map (stop first : Token) (ts : List Token) :
    readStatement (f stop) (f first) (ts.map f) = (readStatement stop first ts).map f := by
  have statement : readStatement? (f stop) (f first) (ts.map f) =
      mapRead f (Sentence.map f) (readStatement? stop first ts) := by
    unfold readStatement?
    rw [hf, expect_unexpected_map hf, readCall_map hf]
    split
    · cases expect .identifier (.unexpected .robotName) stop ts <;> rfl
    · rfl
    · rfl
  unfold readStatement
  rw [statement]
  cases readStatement? stop first ts with
  | ok sentence => rfl
  | error broken => simp [mapRead, Broken.map, Sentence.map, Event.map, resume_map hf]

theorem readBlocks_map (stop : Token) (blocks ts : List Token) :
    readBlocks (f stop) (blocks.map f) (ts.map f) = (readBlocks stop blocks ts).map (Event.map f) := by
  fun_induction readBlocks stop blocks ts with
  | case1 blocks => simp [readBlocks, Event.map, Fault.map]
  | case2 t ts hc ih =>
    rw [List.map_cons, List.map_nil, readBlocks_stray ((hf t).trans hc)]
    exact congrArg _ ih
  | case3 t ts hc brace outer ih =>
    rw [List.map_cons, List.map_cons, readBlocks_closed ((hf t).trans hc)]
    exact congrArg _ ih
  | case4 blocks t ts hc sentence ih =>
    have blocked : (sentence.map f).block.toList ++ blocks.map f = (sentence.block.toList ++ blocks).map f := by
      cases h : sentence.block <;> simp [Sentence.map, h]
    rw [List.map_cons, readBlocks_sentence (fun h => hc ((hf t).symm.trans h)), readStatement_map hf,
      List.map_append, ← ih, ← blocked]
    rfl

theorem Script.read_map (s : Script) : Script.read ⟨s.body.map f, f s.stop⟩ = s.read.map (Event.map f) :=
  readBlocks_map hf s.stop [] s.body

theorem significant_map (tokens : List Token) : significant (tokens.map f) = (significant tokens).map f := by
  simp only [significant, List.filter_map, Function.comp_def, hf]

/-- The words of a script are replaced one by one, given that its end is if it has to be made up. -/
theorem Script.ofTokens_map {tokens : List Token} (implied : impliedStop (tokens.map f) = f (impliedStop tokens)) :
    Script.ofTokens (tokens.map f) = ⟨(Script.ofTokens tokens).body.map f, f (Script.ofTokens tokens).stop⟩ := by
  simp only [ofTokens, significant_map hf, implied, List.takeWhile_map, List.find?_map, Function.comp_def, hf,
    Option.getD_map]

end Statement

theorem countStatements_map (f : Token → Token) (events : List Event) :
    countStatements (events.map (Event.map f)) = countStatements events := by
  rw [countStatements, List.countP_map, countStatements]
  congr 1
  funext e
  cases e <;> rfl

theorem filterMap_fault?_map (f : Token → Token) (events : List Event) :
    (events.map (Event.map f)).filterMap Event.fault? = (events.filterMap Event.fault?).map (Fault.map f) := by
  rw [List.filterMap_map, List.map_filterMap]
  congr 1
  funext e
  cases e <;> rfl

def Fault.words : Fault → List Token
  | .unexpected _ found | .unknownMethod found => [found]
  | .badHeader robot _ found | .unexpectedValue robot _ found => [robot, found]
  | .missingValue robot _ name => [robot, name]
  | .strayBrace brace => [brace]
  | .unclosedBlock brace stop => [brace, stop]

def Event.words : Event → List Token
  | .declaration name => [name]
  | .call robot _ argument => robot :: argument.toList
  | .opened brace | .closed brace => [brace]
  | .fault cause _ => cause.words

theorem Event.words_map (f : Token → Token) (e : Event) : (e.map f).words = e.words.map f := by
  cases e with
  | call robot method argument => cases argument <;> rfl
  | fault cause recovery => cases cause <;> rfl
  | _ => rfl

/-- Reading makes up no words: a change that spares those of the script changes nothing of what is read. -/
theorem Script.mem_of_mem_words {s : Script} {e : Event} {word : Token} (read : e ∈ s.read) (hw : word ∈ e.words) :
    word ∈ s.body ++ [s.stop] := by
  let f : Token → Token := fun t => if t ∈ s.body ++ [s.stop] then t else { t with lexeme := t.lexeme ++ "x" }
  have kinds : ∀ t, (f t).kind = t.kind := by
    intro t
    simp only [f]
    split <;> rfl
  have spared : ∀ t ∈ s.body ++ [s.stop], f t = t := fun t ht => if_pos ht
  have same : s.read.map (Event.map f) = s.read.map id := by
    have body : s.body.map f = s.body.map id :=
      List.map_congr_left fun t ht => spared t (List.mem_append_left _ ht)
    rw [← Script.read_map kinds, body, List.map_id, spared _ (by simp), List.map_id]
  have kept : e.words.map f = e.words.map id := by
    rw [← e.words_map, List.map_inj_left.mp same e read, List.map_id, id]
  by_cases own : word ∈ s.body ++ [s.stop]
  · exact own
  · have lexeme : word.lexeme ++ "x" = word.lexeme :=
      congrArg Token.lexeme ((if_neg own).symm.trans (List.map_inj_left.mp kept word hw))
    exact absurd (congrArg String.length lexeme) (by simp)

end ArmScript
