import ArmScript.Script.Event

/-!
Reading a script. The sentences are

* `Robot name`
* `robot.method = number` and `robot.method(number)`, for a method with a value
* `robot.method` and `robot.method()`, for a method without one
* `robot.repetir(number) { sentences }`

and nothing but the start of the next one ends a sentence. A broken sentence is one fault, and reading goes on
at the next word that can start a sentence or close a block.
-/
set_option autoImplicit false

namespace ArmScript

structure Script where
  body : List Token
  stop : Token
  deriving DecidableEq, Repr

/-- Words that are given without an end get one behind the last of them. -/
def impliedStop (tokens : List Token) : Token :=
  match tokens.getLast? with
  | some last => ⟨"", .endOfInput, last.position, ⟨last.span.stop, last.span.stop⟩⟩
  | none => ⟨"", .endOfInput, .start, ⟨0, 0⟩⟩

def significant (tokens : List Token) : List Token := tokens.filter fun t => t.kind != .invalid

def Script.ofTokens (tokens : List Token) : Script where
  body := (significant tokens).takeWhile fun t => t.kind != .endOfInput
  stop := ((significant tokens).find? fun t => t.kind == .endOfInput).getD (impliedStop tokens)

def nextKind : List Token → TokenKind
  | [] => .endOfInput
  | t :: _ => t.kind

/-- Whether the word can start a sentence or close a block. -/
def isBoundary (t : Token) (rest : List Token) : Bool :=
  t.kind == .robot || t.kind == .closeBrace || t.kind == .identifier && nextKind rest == .dot

def resume : List Token → List Token
  | [] => []
  | t :: rest => if isBoundary t rest then t :: rest else resume rest

/-- The brace that comes before the next boundary, and the words behind it; without one, the words from the
boundary on. -/
def findBlock : List Token → Option Token × List Token
  | [] => (none, [])
  | t :: rest =>
    if t.kind = .openBrace then (some t, rest)
    else if isBoundary t rest then (none, t :: rest)
    else findBlock rest

structure Broken where
  fault : Fault
  rest : List Token
  deriving DecidableEq, Repr

/-- Takes a word of one kind. The fault of any other word is made by `fault`. -/
def expect (kind : TokenKind) (fault : Token → Fault) (stop : Token) :
    List Token → Except Broken (Token × List Token)
  | [] => .error ⟨fault stop, []⟩
  | t :: rest => if t.kind = kind then .ok (t, rest) else .error ⟨fault t, t :: rest⟩

def readValue (robot : Token) (method : Method) (name stop : Token) (ts : List Token) :
    Except Broken (Token × List Token) :=
  match nextKind ts with
  | .equals => expect .number (.unexpected .number) stop ts.tail
  | .openParen =>
    if nextKind ts.tail = .closeParen then .error ⟨.missingValue robot method name, ts.tail⟩
    else
      match expect .number (.unexpected .number) stop ts.tail with
      | .error broken => .error broken
      | .ok (argument, rest) =>
        match expect .closeParen (.unexpected .closeParen) stop rest with
        | .error broken => .error broken
        | .ok (_, rest) => .ok (argument, rest)
  | _ => .error ⟨.missingValue robot method name, ts⟩

def readNoValue (robot : Token) (method : Method) (stop : Token) (ts : List Token) :
    Except Broken (List Token) :=
  match nextKind ts with
  | .openParen =>
    match nextKind ts.tail with
    | .closeParen => .ok ts.tail.tail
    | .number => .error ⟨.unexpectedValue robot method (ts.tail.headD stop), ts.tail⟩
    | _ => .error ⟨.unexpected .closeParen (ts.tail.headD stop), ts.tail⟩
  | .equals => .error ⟨.unexpectedValue robot method (ts.headD stop), ts⟩
  | _ => .ok ts

structure Sentence where
  events : List Event
  block : Option Token
  rest : List Token
  deriving DecidableEq, Repr

/-- `(number) {`. Without a number the fault is reported and the block kept. -/
def readHeader (robot name stop : Token) (ts : List Token) : Except Broken Sentence :=
  match nextKind ts with
  | .openParen =>
    match readValue robot .repetir name stop ts with
    | .error broken => .error broken
    | .ok (count, rest) =>
      match expect .openBrace (.badHeader robot .openBrace) stop rest with
      | .error broken => .error broken
      | .ok (brace, rest) => .ok ⟨[.call robot .repetir (some count), .opened brace], some brace, rest⟩
  | .equals => .error ⟨.badHeader robot .openParen (ts.headD stop), ts⟩
  | .openBrace =>
    let brace := ts.headD stop
    .ok ⟨[.fault (.missingValue robot .repetir name) none, .opened brace], some brace, ts.tail⟩
  | _ => .error ⟨.missingValue robot .repetir name, ts⟩

/-- A broken header is reported once. A brace that follows it still opens the block. -/
def readRepeat (robot name stop : Token) (ts : List Token) : Sentence :=
  match readHeader robot name stop ts with
  | .ok sentence => sentence
  | .error broken =>
    let (block, rest) := findBlock broken.rest
    ⟨.fault broken.fault (some .header) :: block.toList.map .opened, block, rest⟩

def readCall (robot stop : Token) (ts : List Token) : Except Broken Sentence :=
  match expect .dot (.unexpected .dot) stop ts with
  | .error broken => .error broken
  | .ok (_, ts) =>
    let name := ts.headD stop
    match nextKind ts with
    | .method .repetir => .ok (readRepeat robot name stop ts.tail)
    | .method method =>
      match method.signature.arity with
      | .unary =>
        match readValue robot method name stop ts.tail with
        | .error broken => .error broken
        | .ok (argument, rest) => .ok ⟨[.call robot method (some argument)], none, rest⟩
      | .nullary =>
        match readNoValue robot method stop ts.tail with
        | .error broken => .error broken
        | .ok rest => .ok ⟨[.call robot method none], none, rest⟩
    | .identifier => .error ⟨.unknownMethod name, ts⟩
    | _ => .error ⟨.unexpected .methodName name, ts⟩

def readStatement? (stop first : Token) (ts : List Token) : Except Broken Sentence :=
  match first.kind with
  | .robot =>
    match expect .identifier (.unexpected .robotName) stop ts with
    | .error broken => .error broken
    | .ok (name, rest) => .ok ⟨[.declaration name], none, rest⟩
  | .identifier => readCall first stop ts
  | _ => .error ⟨.unexpected .statement first, ts⟩

def readStatement (stop first : Token) (ts : List Token) : Sentence :=
  match readStatement? stop first ts with
  | .ok sentence => sentence
  | .error broken => ⟨[.fault broken.fault (some .statement)], none, resume broken.rest⟩

/-- Whatever comes of reading, the words left are the last ones of those given. -/
def KeepsEnd {α : Type} (ts : List Token) (rest : α → List Token) : Except Broken α → Prop
  | .ok a => rest a <:+ ts
  | .error broken => broken.rest <:+ ts

theorem resume_isSuffix (ts : List Token) : resume ts <:+ ts := by
  induction ts with
  | nil => exact List.suffix_refl _
  | cons t rest ih =>
    simp only [resume]
    split
    · exact List.suffix_refl _
    · exact ih.trans (List.suffix_cons t rest)

theorem findBlock_isSuffix (ts : List Token) : (findBlock ts).2 <:+ ts := by
  induction ts with
  | nil => exact List.suffix_refl _
  | cons t rest ih =>
    simp only [findBlock]
    split
    · exact List.suffix_cons t rest
    · split
      · exact List.suffix_refl _
      · exact ih.trans (List.suffix_cons t rest)

theorem expect_keepsEnd (kind : TokenKind) (fault : Token → Fault) (stop : Token) (ts : List Token) :
    KeepsEnd ts Prod.snd (expect kind fault stop ts) := by
  cases ts with
  | nil => exact List.suffix_refl _
  | cons t rest =>
    simp only [expect]
    split
    · exact List.suffix_cons t rest
    · exact List.suffix_refl _

theorem KeepsEnd.ok {α : Type} {ts : List Token} {rest : α → List Token} {r : Except Broken α} {a : α}
    (h : KeepsEnd ts rest r) (hr : r = .ok a) : rest a <:+ ts := by subst hr; exact h

theorem KeepsEnd.error {α : Type} {ts : List Token} {rest : α → List Token} {r : Except Broken α}
    {broken : Broken} (h : KeepsEnd ts rest r) (hr : r = .error broken) : broken.rest <:+ ts := by
  subst hr; exact h

theorem readValue_keepsEnd (robot : Token) (method : Method) (name stop : Token) (ts : List Token) :
    KeepsEnd ts Prod.snd (readValue robot method name stop ts) := by
  have tail := List.tail_suffix ts
  have number := expect_keepsEnd .number (.unexpected .number) stop ts.tail
  unfold readValue
  split
  · generalize hr : expect .number (.unexpected .number) stop ts.tail = r at number
    cases r with
    | ok a => exact (number.ok rfl).trans tail
    | error broken => exact (number.error rfl).trans tail
  · split
    · exact tail
    · split
      · next hr => exact (number.error hr).trans tail
      · next argument rest hr =>
        have close := expect_keepsEnd .closeParen (.unexpected .closeParen) stop rest
        have before := (number.ok hr).trans tail
        split
        · next hc => exact (close.error hc).trans before
        · next hc => exact (close.ok hc).trans before
  · exact List.suffix_refl _

theorem readNoValue_keepsEnd (robot : Token) (method : Method) (stop : Token) (ts : List Token) :
    KeepsEnd ts id (readNoValue robot method stop ts) := by
  have tail := List.tail_suffix ts
  unfold readNoValue
  split
  · split
    · exact (List.tail_suffix _).trans tail
    · exact tail
    · exact tail
  · exact List.suffix_refl _
  · exact List.suffix_refl _

theorem readHeader_keepsEnd (robot name stop : Token) (ts : List Token) :
    KeepsEnd ts Sentence.rest (readHeader robot name stop ts) := by
  have value := readValue_keepsEnd robot .repetir name stop ts
  unfold readHeader
  split
  · split
    · next hv => exact value.error hv
    · next count rest hv =>
      have brace := expect_keepsEnd .openBrace (.badHeader robot .openBrace) stop rest
      have before := value.ok hv
      split
      · next hb => exact (brace.error hb).trans before
      · next hb => exact (brace.ok hb).trans before
  · exact List.suffix_refl _
  · exact List.tail_suffix _
  · exact List.suffix_refl _

theorem readRepeat_isSuffix (robot name stop : Token) (ts : List Token) :
    (readRepeat robot name stop ts).rest <:+ ts := by
  have header := readHeader_keepsEnd robot name stop ts
  unfold readRepeat
  split
  · next hh => exact header.ok hh
  · next hh => exact (findBlock_isSuffix _).trans (header.error hh)

theorem readCall_keepsEnd (robot stop : Token) (ts : List Token) :
    KeepsEnd ts Sentence.rest (readCall robot stop ts) := by
  have dot := expect_keepsEnd .dot (.unexpected .dot) stop ts
  unfold readCall
  split
  · next hd => exact dot.error hd
  · next rest hd =>
    have before := dot.ok hd
    have tail := (List.tail_suffix rest).trans before
    dsimp only
    split
    · exact (readRepeat_isSuffix _ _ _ _).trans tail
    · next method _ =>
      split
      · split
        · next hv => exact ((readValue_keepsEnd _ _ _ _ _).error hv).trans tail
        · next hv => exact ((readValue_keepsEnd _ _ _ _ _).ok hv).trans tail
      · split
        · next hv => exact ((readNoValue_keepsEnd _ _ _ _).error hv).trans tail
        · next hv => exact ((readNoValue_keepsEnd _ _ _ _).ok hv).trans tail
    · exact before
    · exact before

theorem readStatement_isSuffix (stop first : Token) (ts : List Token) :
    (readStatement stop first ts).rest <:+ ts := by
  have statement : KeepsEnd ts Sentence.rest (readStatement? stop first ts) := by
    unfold readStatement?
    split
    · have name := expect_keepsEnd .identifier (.unexpected .robotName) stop ts
      split
      · next hn => exact name.error hn
      · next hn => exact name.ok hn
    · exact readCall_keepsEnd _ _ _
    · exact List.suffix_refl _
  unfold readStatement
  split
  · next hs => exact statement.ok hs
  · next hs => exact (resume_isSuffix _).trans (statement.error hs)

/-- Reads on inside the given open blocks, the innermost first. Blocks that are open at the end are reported
from the innermost outwards. -/
def readBlocks (stop : Token) (blocks : List Token) : List Token → List Event
  | [] => blocks.map fun brace => .fault (.unclosedBlock brace stop) none
  | t :: ts =>
    if t.kind = .closeBrace then
      match blocks with
      | [] => .fault (.strayBrace t) none :: readBlocks stop [] ts
      | _ :: outer => .closed t :: readBlocks stop outer ts
    else
      let sentence := readStatement stop t ts
      sentence.events ++ readBlocks stop (sentence.block.toList ++ blocks) sentence.rest
termination_by ts => ts.length
decreasing_by
  · simp
  · simp
  · exact Nat.lt_succ_of_le (readStatement_isSuffix stop t ts).length_le

def Script.read (s : Script) : List Event := readBlocks s.stop [] s.body

end ArmScript
