import ArmScript.Proofs.Analysis.Spans
import ArmScript.Proofs.Report.Closing
import ArmScript.Proofs.Token.Gaps

/-!
The tables of a report, read back from its text. Fields are padded and never cut. No field holds a space or the end of
a line, so the runs of spaces in a row part its fields however long they are, and what the rows show of the words and
robots of a script can be told from the text alone.
-/
set_option autoImplicit false

namespace ArmScript
open Text

def fieldsOf (line : String) : List String := (runs (· == ' ') line.toList).map String.ofList

def linesOf (text : List Char) : List String := (text.splitOn '\n').dropLast.map String.ofList

structure ReportRows where
  tokens : List (List String)
  robots : List (List String)
  deriving DecidableEq, Repr

/-- Reads both tables of a report on a script of the given name. An empty line ends each table. -/
def readRows (name text : String) : ReportRows :=
  let lines := linesOf (text.toList.drop (name.length + 1))
  let behindHeader := lines.drop 3
  let behindTokens := behindHeader.dropWhile (· ≠ "")
  { tokens := (behindHeader.takeWhile (· ≠ "")).map fieldsOf
    robots := ((behindTokens.drop 2).takeWhile (· ≠ "")).map fieldsOf }

/-- What the row of a word shows. A word without a spelling shows no lexeme. -/
def Token.fields (index : Nat) (t : Token) : List String :=
  toString index :: (if t.lexeme = "" then [] else [t.lexeme]) ++
    [t.kind.label, toString t.position.line, toString t.position.column]

def tokenFields (tokens : List Token) : List (List String) :=
  (tokens.zipIdx 1).map fun word => word.1.fields word.2

def Robot.fields (r : Robot) : List String := [r.name, "declared", "at", r.position.text]

/-- What the rows of the robots show. One row says that there are none. -/
def robotFields (robots : List Robot) : List (List String) :=
  if robots.isEmpty then [["(none", "declared)"]] else robots.map Robot.fields

/-- A text that stands in a row as one field. -/
structure IsField (text : String) : Prop where
  nonempty : text ≠ ""
  whole : ∀ c ∈ text.toList, isBlank c = false

instance (text : String) : Decidable (IsField text) :=
  decidable_of_iff (text ≠ "" ∧ (text.toList.all fun c => !isBlank c) = true)
    ⟨fun h => ⟨h.1, by simpa using h.2⟩, fun h => ⟨h.nonempty, by simpa using h.whole⟩⟩

section Fields

theorem runs_trailing (text : List Char) (n : Nat) :
    runs (· == ' ') (text ++ List.replicate n ' ') = runs (· == ' ') text := by
  cases n with
  | zero => simp
  | succ n =>
    have spaces : ∀ c ∈ List.replicate (n + 1) ' ', (c == ' ') = true := by simp
    have apart := runs_append_breaks (List.cons_ne_nil _ _) spaces text []
    rw [List.append_nil] at apart
    exact apart.trans (List.append_nil _)

theorem fieldsOf_append {gap : String} (nonempty : gap ≠ "") (spaces : gap.toList.all (· == ' ') = true)
    (left right : String) : fieldsOf (left ++ gap ++ right) = fieldsOf left ++ fieldsOf right := by
  have gapped : gap.toList ≠ [] := by simpa using nonempty
  rw [fieldsOf, String.toList_append, String.toList_append, List.append_assoc,
    runs_append_breaks gapped (List.all_eq_true.mp spaces), List.map_append]
  rfl

theorem fieldsOf_padRight (width : Nat) (text : String) : fieldsOf (padRight width text) = fieldsOf text := by
  rw [fieldsOf, padRight, blanks, String.toList_append, String.toList_ofList, runs_trailing, fieldsOf]

theorem fieldsOf_padLeft (width : Nat) (text : String) : fieldsOf (padLeft width text) = fieldsOf text := by
  rw [fieldsOf, padLeft, blanks, String.toList_append, String.toList_ofList, runs_breaks (by simp), fieldsOf]

theorem IsField.fieldsOf_eq {text : String} (h : IsField text) : fieldsOf text = [text] := by
  have noSpace : ∀ c ∈ text.toList, (c == ' ') = false := by
    intro c hc
    refine beq_eq_false_iff_ne.mpr ?_
    rintro rfl
    exact absurd (h.whole _ hc) (by decide)
  rw [fieldsOf, runs_eq_singleton (by simpa using h.nonempty) noSpace]
  simp

theorem isField_toString (n : Nat) : IsField (toString n) where
  nonempty := by
    rw [Nat.toString_eq_ofList_toDigits, ne_eq, String.ofList_eq_empty_iff]
    exact Nat.toDigits_ne_nil
  whole _ hc := isBlank_of_isDigit (isDigit_toString hc)

theorem fieldsOf_tokenRow (index lexeme kind line column : String) :
    fieldsOf (tokenRow index lexeme kind line column) =
      fieldsOf index ++ fieldsOf lexeme ++ fieldsOf kind ++ fieldsOf line ++ fieldsOf column := by
  have one : " ".toList.all (· == ' ') = true := by decide
  have two : "  ".toList.all (· == ' ') = true := by decide
  rw [tokenRow, fieldsOf_append (by decide) one, fieldsOf_append (by decide) one, fieldsOf_append (by decide) one,
    fieldsOf_append (by decide) two, fieldsOf_padLeft, fieldsOf_padRight, fieldsOf_padRight, fieldsOf_padLeft,
    fieldsOf_padLeft]

end Fields

section Lines

theorem linesOf_append_line {line : String} (h : '\n' ∉ line.toList) (rest : List Char) :
    linesOf (line.toList ++ '\n' :: rest) = line :: linesOf rest := by
  have more : rest.splitOn '\n' ≠ [] := List.splitOn_ne_nil _ _
  rw [linesOf, List.splitOn_append_cons_self_of_not_mem h, List.dropLast_cons_of_ne_nil more, List.map_cons,
    String.ofList_toList]
  rfl

theorem linesOf_append {lines : List String} (h : ∀ line ∈ lines, '\n' ∉ line.toList) (rest : List Char) :
    linesOf (lines.flatMap (fun line => line.toList ++ ['\n']) ++ rest) = lines ++ linesOf rest := by
  induction lines with
  | nil => rfl
  | cons line lines ih =>
    obtain ⟨first, others⟩ := List.forall_mem_cons.mp h
    rw [List.flatMap_cons, List.append_assoc, List.append_assoc, List.singleton_append, linesOf_append_line first,
      ih others]
    rfl

end Lines

section Rows

theorem fieldsOf_empty : fieldsOf "" = [] := rfl

theorem lineFeed_notMem_padRight {text : String} (h : '\n' ∉ text.toList) (width : Nat) :
    '\n' ∉ (padRight width text).toList := by
  simp [padRight, blanks, h]

theorem lineFeed_notMem_padLeft {text : String} (h : '\n' ∉ text.toList) (width : Nat) :
    '\n' ∉ (padLeft width text).toList := by
  simp [padLeft, blanks, h]

theorem lineFeed_notMem_of_solid {text : String} (h : ∀ c ∈ text.toList, isBlank c = false) : '\n' ∉ text.toList :=
  fun hc => absurd (h _ hc) (by decide)

theorem ne_empty_of_fieldsOf {line : String} {fields : List String} (h : fieldsOf line = fields)
    (nonempty : fields ≠ []) : line ≠ "" := by
  rintro rfl
  exact nonempty h.symm

theorem TokenKind.isField_label (kind : TokenKind) : IsField kind.label := by
  cases kind with
  | method m => exact (by decide : IsField "METHOD")
  | _ => decide

section Token
variable {t : Token} (solid : ∀ c ∈ t.lexeme.toList, isBlank c = false) (index : Nat)
include solid

theorem Token.fieldsOf_row : fieldsOf (t.row index) = t.fields index := by
  have lexeme : fieldsOf t.lexeme = if t.lexeme = "" then [] else [t.lexeme] := by
    split
    · next empty => rw [empty, fieldsOf_empty]
    · next nonempty => exact IsField.fieldsOf_eq ⟨nonempty, solid⟩
  rw [row, fieldsOf_tokenRow, lexeme, (isField_toString index).fieldsOf_eq, t.kind.isField_label.fieldsOf_eq,
    (isField_toString _).fieldsOf_eq, (isField_toString _).fieldsOf_eq, fields]
  simp

theorem Token.lineFeed_notMem_row : '\n' ∉ (t.row index).toList := by
  have number : ∀ n : Nat, '\n' ∉ (toString n).toList := fun n => lineFeed_notMem_of_solid (isField_toString n).whole
  have label := lineFeed_notMem_of_solid t.kind.isField_label.whole
  have lexeme := lineFeed_notMem_of_solid solid
  simp only [row, tokenRow, String.toList_append, List.mem_append, not_or]
  exact ⟨⟨⟨⟨⟨⟨⟨⟨lineFeed_notMem_padLeft (number _) _, by decide⟩, lineFeed_notMem_padRight lexeme _⟩, by decide⟩,
    lineFeed_notMem_padRight label _⟩, by decide⟩, lineFeed_notMem_padLeft (number _) _⟩, by decide⟩,
    lineFeed_notMem_padLeft (number _) _⟩

end Token

theorem Position.toList_text (p : Position) :
    p.text.toList = (toString p.line).toList ++ (':' :: (toString p.column).toList) := by
  simp [text, toString]

theorem Position.isField_text (p : Position) : IsField p.text where
  nonempty := by
    rw [ne_eq, ← String.toList_eq_nil_iff, p.toList_text]
    simp
  whole := by
    rw [p.toList_text]
    refine List.forall_mem_append.mpr ⟨(isField_toString _).whole, List.forall_mem_cons.mpr ⟨?_, ?_⟩⟩
    · decide
    · exact (isField_toString _).whole

section Robot
variable {r : Robot} (name : IsField r.name)
include name

theorem Robot.fieldsOf_row : fieldsOf r.row = r.fields := by
  have middle : " declared at " = " " ++ "declared" ++ " " ++ "at" ++ " " := rfl
  have apart : r.row =
      "" ++ "  " ++ padRight 16 r.name ++ " " ++ "declared" ++ " " ++ "at" ++ " " ++ r.position.text := by
    rw [row, middle]
    simp only [String.append_assoc, String.empty_append]
  rw [apart, fieldsOf_append (by decide) (by decide), fieldsOf_append (by decide) (by decide),
    fieldsOf_append (by decide) (by decide), fieldsOf_append (by decide) (by decide), fieldsOf_empty, fieldsOf_padRight,
    name.fieldsOf_eq, (by decide : IsField "declared").fieldsOf_eq, (by decide : IsField "at").fieldsOf_eq,
    r.position.isField_text.fieldsOf_eq]
  rfl

theorem Robot.lineFeed_notMem_row : '\n' ∉ r.row.toList := by
  have position := lineFeed_notMem_of_solid r.position.isField_text.whole
  simp only [row, String.toList_append, List.mem_append, not_or]
  exact ⟨⟨⟨by decide, lineFeed_notMem_padRight (lineFeed_notMem_of_solid name.whole) _⟩, by decide⟩, position⟩

end Robot

def robotLines (robots : List Robot) : List String :=
  if robots.isEmpty then ["  (none declared)"] else robots.map Robot.row

theorem map_fieldsOf_robotLines {robots : List Robot} (names : ∀ r ∈ robots, IsField r.name) :
    (robotLines robots).map fieldsOf = robotFields robots := by
  unfold robotLines robotFields
  split
  · rfl
  · rw [List.map_map]
    exact List.map_congr_left fun r hr => Robot.fieldsOf_row (names r hr)

theorem lineFeed_notMem_robotLines {robots : List Robot} (names : ∀ r ∈ robots, IsField r.name) :
    ∀ line ∈ robotLines robots, '\n' ∉ line.toList := by
  unfold robotLines
  split
  · exact List.forall_mem_singleton.mpr (by decide)
  · exact List.forall_mem_map.mpr fun r hr => Robot.lineFeed_notMem_row (names r hr)

theorem robotLines_ne_empty {robots : List Robot} (names : ∀ r ∈ robots, IsField r.name) :
    ∀ line ∈ robotLines robots, line ≠ "" := by
  unfold robotLines
  split
  · exact List.forall_mem_singleton.mpr (by decide)
  · exact List.forall_mem_map.mpr fun r hr =>
      ne_empty_of_fieldsOf (Robot.fieldsOf_row (names r hr)) (List.cons_ne_nil _ _)

theorem parted {rows : List String} (h : ∀ row ∈ rows, row ≠ "") (rest : List String) :
    (rows ++ "" :: rest).takeWhile (· ≠ "") = rows ∧ (rows ++ "" :: rest).dropWhile (· ≠ "") = "" :: rest := by
  have rows' : ∀ row ∈ rows, decide (row ≠ "") = true := fun row hr => decide_eq_true (h row hr)
  rw [List.takeWhile_append_of_pos rows', List.dropWhile_append_of_pos rows']
  simp

def tokenLines (tokens : List Token) : List String := (tokens.zipIdx 1).map fun word => word.1.row word.2

section TokenLines
variable {tokens : List Token} (solid : ∀ t ∈ tokens, ∀ c ∈ t.lexeme.toList, isBlank c = false)
include solid

theorem map_fieldsOf_tokenLines : (tokenLines tokens).map fieldsOf = tokenFields tokens := by
  rw [tokenLines, List.map_map, tokenFields]
  refine List.map_congr_left fun word hw => ?_
  have row := Token.fieldsOf_row (solid word.1 (List.fst_mem_of_mem_zipIdx hw)) word.2
  rw [Function.comp_apply]
  exact row

theorem tokenLines_ne_empty : ∀ line ∈ tokenLines tokens, line ≠ "" := by
  refine List.forall_mem_map.mpr fun word hw => ?_
  have row := Token.fieldsOf_row (solid word.1 (List.fst_mem_of_mem_zipIdx hw)) word.2
  exact ne_empty_of_fieldsOf row (List.cons_ne_nil _ _)

theorem lineFeed_notMem_tokenLines : ∀ line ∈ tokenLines tokens, '\n' ∉ line.toList :=
  List.forall_mem_map.mpr fun word hw =>
    Token.lineFeed_notMem_row (solid word.1 (List.fst_mem_of_mem_zipIdx hw)) word.2

end TokenLines

end Rows

section Report
variable {a : Analysis} (solid : ∀ t ∈ a.tokens, ∀ c ∈ t.lexeme.toList, isBlank c = false)
  (names : ∀ r ∈ a.symbols.robots, IsField r.name)
include solid names

theorem readRows_report (name : String) :
    readRows name (report name a .full) =
      ⟨tokenFields a.tokens, robotFields a.symbols.robots⟩ := by
  let front := ["", "Tokens", tokenRow "#" "LEXEME" "KIND" "LINE" "COLUMN"] ++
    (tokenLines a.tokens ++ (["", "Robots"] ++ (robotLines a.symbols.robots ++ [""])))
  obtain ⟨rest, lines⟩ : ∃ rest, reportLines name a .full = name :: (front ++ rest) := by
    refine ⟨"Methods" :: a.symbols.methods.map Signature.row ++ ["", summary a.diagnostics], ?_⟩
    simp [reportLines, ReportOptions.full, tokenTable, symbolTable, front, tokenLines, robotLines]
  have text : (report name a .full).toList.drop (name.length + 1) =
      front.flatMap (fun line => line.toList ++ ['\n']) ++ rest.flatMap (fun line => line.toList ++ ['\n']) := by
    have heading : (name.toList ++ ['\n']).length = name.length + 1 := by simp [String.length_toList]
    have lineFeed : "\n".toList = ['\n'] := rfl
    rw [report, lines, String.toList_join, List.map_cons, List.flatMap_cons, List.flatMap_map, ← List.flatMap_append,
      ← heading]
    simp only [String.toList_append, lineFeed]
    exact List.drop_left
  have clean : ∀ line ∈ front, '\n' ∉ line.toList := by
    simp only [front, List.forall_mem_append, List.forall_mem_cons]
    have none : ∀ line ∈ ([] : List String), '\n' ∉ line.toList := List.forall_mem_nil _
    exact ⟨⟨by decide, by decide, by decide, none⟩, lineFeed_notMem_tokenLines solid, ⟨by decide, by decide, none⟩,
      lineFeed_notMem_robotLines names, by decide, none⟩
  have tokenRows := parted (tokenLines_ne_empty solid)
  have robotRows := parted (robotLines_ne_empty names)
  have behind : (linesOf ((report name a .full).toList.drop (name.length + 1))).drop 3 =
      tokenLines a.tokens ++ "" :: "Robots" :: (robotLines a.symbols.robots ++ "" :: linesOf
        (rest.flatMap fun line => line.toList ++ ['\n'])) := by
    rw [text, linesOf_append clean]
    simp [front]
  simp only [readRows, behind, tokenRows, robotRows, List.drop_succ_cons, List.drop_zero,
    map_fieldsOf_tokenLines solid, map_fieldsOf_robotLines names]

end Report

section Words
variable {source : String} {word : Token} (h : word ∈ tokenize source)
include h

theorem isBlank_of_mem_lexeme : ∀ c ∈ word.lexeme.toList, isBlank c = false := by
  rcases (laid_tokenize source).exists_piece h with ⟨_, piece, _, -, precedes, significant, rfl⟩ | rfl
  · simpa [Piece.token] using precedes.solid significant
  · simp [Token.endOf]

theorem lexeme_eq_empty_iff : word.lexeme = "" ↔ word.kind = .endOfInput := by
  rcases (laid_tokenize source).exists_piece h with ⟨_, piece, _, -, precedes, significant, rfl⟩ | rfl
  · obtain ⟨c, cs, text, -⟩ := precedes.exists_start significant
    exact iff_of_false (by simp [Piece.token, text]) precedes.ne_endOfInput
  · exact iff_of_true rfl rfl

end Words

theorem isField_robot {source : String} {r : Robot} (h : r ∈ (analyze source).symbols.robots) : IsField r.name := by
  rw [robots_analyze] at h
  have within := Script.within_ofTokens (endOf_mem_tokenize source) rfl
  rcases RobotTable.mem_afterAll h with known | ⟨name, declared, rfl⟩
  · cases known
  · obtain ⟨kind, before, -, pair⟩ := within.suits _ declared
    have member : name ∈ tokenize source :=
      (within.place (List.mem_append_left _ (pair.subset (List.mem_cons_of_mem _ List.mem_cons_self)))).1
    refine ⟨fun empty => ?_, isBlank_of_mem_lexeme member⟩
    have ends := (lexeme_eq_empty_iff member).mp empty
    rw [kind] at ends
    cases ends

theorem readRows_analyze (name source : String) :
    readRows name (report name (analyze source) .full) =
      ⟨tokenFields (tokenize source), robotFields (analyze source).symbols.robots⟩ := by
  have tokens := tokens_analyze source
  rw [← tokens]
  exact readRows_report (fun word hw => isBlank_of_mem_lexeme (tokens ▸ hw)) (fun _ => isField_robot) name

section Injective

theorem numbers_text (p : Position) : numbers p.text.toList = [p.line, p.column] := by
  have colon : isWords [':'] = true := by decide
  have apart := numbers_append_words colon (by decide) (toString p.line).toList (toString p.column).toList
  rw [numbers_toString, numbers_toString] at apart
  rw [p.toList_text]
  exact apart

theorem Position.text_injective {p q : Position} (h : p.text = q.text) : p = q := by
  have same : numbers p.text.toList = numbers q.text.toList := by rw [h]
  rw [numbers_text, numbers_text] at same
  obtain ⟨_, _⟩ := p
  obtain ⟨_, _⟩ := q
  cases same
  rfl

/-- The kind that a label and a spelling tell. Methods share one label and are told by their names. -/
def TokenKind.ofLabel? (label lexeme : String) : Option TokenKind :=
  if label = "METHOD" then (Method.ofName? lexeme).map .method
  else [.robot, .identifier, .number, .dot, .equals, .openParen, .closeParen, .openBrace, .closeBrace, .comment, .blank,
    .invalid, .endOfInput].find? fun kind : TokenKind => kind.label == label

theorem TokenKind.ofLabel?_label {kind : TokenKind} {lexeme : String}
    (method : ∀ m, kind = .method m → lexeme = m.name) :
    ofLabel? kind.label lexeme = some kind := by
  cases kind with
  | method m =>
    obtain rfl := method m rfl
    simp [ofLabel?, label]
  | _ => rfl

/-- Rows with the same fields have as many fields, so either both words have a spelling or neither has one. -/
theorem Token.of_fields_eq {t u : Token} {i j : Nat} (h : t.fields i = u.fields j) :
    t.lexeme = u.lexeme ∧ t.kind.label = u.kind.label ∧ t.position = u.position := by
  have parts : t.lexeme = u.lexeme ∧ t.kind.label = u.kind.label ∧ toString t.position.line = toString u.position.line ∧
      toString t.position.column = toString u.position.column := by
    unfold fields at h
    split at h <;> split at h
    · next none other => exact ⟨none.trans other.symm, by simpa using (List.cons.inj h).2⟩
    · simp at h
    · simp at h
    · simpa using (List.cons.inj h).2
  obtain ⟨lexeme, label, line, column⟩ := parts
  have position : t.position.text = u.position.text := by
    rw [← String.toList_inj, Position.toList_text, Position.toList_text, line, column]
  exact ⟨lexeme, label, Position.text_injective position⟩

theorem TokenKind.ofLabel?_of_mem_tokenize {source : String} {t : Token} (h : t ∈ tokenize source) :
    ofLabel? t.kind.label t.lexeme = some t.kind := by
  refine ofLabel?_label fun m method => ?_
  rcases (laid_tokenize source).exists_piece h with ⟨_, piece, _, -, precedes, significant, rfl⟩ | rfl
  · exact ((precedes.classified significant).method m).mp method
  · cases method

theorem Token.unspanned_eq_of_fields {source other : String} {t u : Token} (ht : t ∈ tokenize source)
    (hu : u ∈ tokenize other) {i j : Nat} (h : t.fields i = u.fields j) : t.unspanned = u.unspanned := by
  obtain ⟨lexeme, label, position⟩ := of_fields_eq h
  have kind : t.kind = u.kind := by
    have left := TokenKind.ofLabel?_of_mem_tokenize ht
    rw [lexeme, label, TokenKind.ofLabel?_of_mem_tokenize hu] at left
    exact (Option.some.inj left).symm
  rw [unspanned, unspanned, lexeme, kind, position]

theorem map_eq_of_map_eq {α β γ : Type} {f : α → β} {g : α → γ} {xs ys : List α}
    (told : ∀ x ∈ xs, ∀ y ∈ ys, f x = f y → g x = g y) (h : xs.map f = ys.map f) : xs.map g = ys.map g := by
  induction xs generalizing ys with
  | nil =>
    cases ys with
    | nil => rfl
    | cons y ys => cases h
  | cons x xs ih =>
    cases ys with
    | nil => cases h
    | cons y ys =>
      obtain ⟨same, rest⟩ := List.cons.inj h
      have more := ih (fun x hx y hy => told x (List.mem_cons_of_mem _ hx) y (List.mem_cons_of_mem _ hy)) rest
      rw [List.map_cons, List.map_cons, more, told x List.mem_cons_self y List.mem_cons_self same]

theorem map_unspanned_zipIdx (tokens : List Token) (first : Nat) :
    ((tokens.zipIdx first).map fun word => word.1.unspanned) = tokens.map Token.unspanned := by
  conv_rhs => rw [← List.zipIdx_map_fst first tokens, List.map_map]
  rfl

theorem map_unspanned_eq_of_tokenFields {source other : String}
    (h : tokenFields (tokenize source) = tokenFields (tokenize other)) :
    (tokenize source).map Token.unspanned = (tokenize other).map Token.unspanned := by
  have told : ∀ x ∈ (tokenize source).zipIdx 1, ∀ y ∈ (tokenize other).zipIdx 1, x.1.fields x.2 = y.1.fields y.2 →
      x.1.unspanned = y.1.unspanned := fun _ hx _ hy =>
    Token.unspanned_eq_of_fields (List.fst_mem_of_mem_zipIdx hx) (List.fst_mem_of_mem_zipIdx hy)
  have words := map_eq_of_map_eq told h
  rwa [map_unspanned_zipIdx, map_unspanned_zipIdx] at words

theorem Robot.unspanned_eq_of_fields {r s : Robot} (h : r.fields = s.fields) : r.unspanned = s.unspanned := by
  have same : r.name = s.name ∧ r.position.text = s.position.text := by simpa [fields] using h
  rw [unspanned, unspanned, same.1, Position.text_injective same.2]

theorem map_unspanned_eq_of_robotFields {robots others : List Robot} (h : robotFields robots = robotFields others) :
    robots.map Robot.unspanned = others.map Robot.unspanned := by
  cases robots with
  | nil =>
    cases others with
    | nil => rfl
    | cons s others => simp [robotFields, Robot.fields] at h
  | cons r robots =>
    cases others with
    | nil => simp [robotFields, Robot.fields] at h
    | cons s others =>
      have rows : (r :: robots).map Robot.fields = (s :: others).map Robot.fields := h
      exact map_eq_of_map_eq (fun _ _ _ _ => Robot.unspanned_eq_of_fields) rows

end Injective

/-- A report with both tables shows every word and every robot in a row of its own, which is read back field by field.
The words and robots themselves are told by it up to the bytes that they stand at, which no row shows. -/
theorem report_tells_words_and_robots (name source : String) :
    readRows name (report name (analyze source) .full) =
        ⟨tokenFields (analyze source).tokens, robotFields (analyze source).symbols.robots⟩ ∧
      (∀ t ∈ (analyze source).tokens, t.lexeme = "" ↔ t.kind = .endOfInput) ∧
      ∀ other, report name (analyze source) .full = report name (analyze other) .full →
        (analyze source).tokens.map Token.unspanned = (analyze other).tokens.map Token.unspanned ∧
          (analyze source).symbols.robots.map Robot.unspanned =
            (analyze other).symbols.robots.map Robot.unspanned := by
  rw [tokens_analyze]
  refine ⟨readRows_analyze name source, fun _ => lexeme_eq_empty_iff, fun other same => ?_⟩
  have rows := readRows_analyze name source
  rw [same, readRows_analyze name other] at rows
  obtain ⟨tokens, robots⟩ := ReportRows.mk.inj rows
  rw [tokens_analyze]
  exact ⟨map_unspanned_eq_of_tokenFields tokens.symm, map_unspanned_eq_of_robotFields robots.symm⟩

/-- A letter of two bytes in a comment moves the robot behind it by one byte. -/
theorem report_hides_bytes :
    report "a.rob" (analyze "//é\nRobot r") .full = report "a.rob" (analyze "//e\nRobot r") .full ∧
      (analyze "//é\nRobot r").symbols.robots ≠ (analyze "//e\nRobot r").symbols.robots := by
  decide +kernel

theorem report_tells_words_and_robots_beside_comments :
    report "a.rob" (analyze "//é\nRobot r") .full = report "a.rob" (analyze "//e\nRobot r") .full ∧
      (analyze "//é\nRobot r").tokens.map Token.unspanned = (analyze "//e\nRobot r").tokens.map Token.unspanned ∧
      (analyze "//é\nRobot r").symbols.robots.map Robot.unspanned =
        (analyze "//e\nRobot r").symbols.robots.map Robot.unspanned := by
  have same : report "a.rob" (analyze "//é\nRobot r") .full = report "a.rob" (analyze "//e\nRobot r") .full := by
    decide +kernel
  exact ⟨same, (report_tells_words_and_robots "a.rob" "//é\nRobot r").2.2 _ same⟩

end ArmScript
