import ArmScript.Proofs.Analysis.Braces
import ArmScript.Proofs.Analysis.Names
import ArmScript.Proofs.Analysis.Order
import ArmScript.Proofs.Script.Subjects
import ArmScript.Proofs.Token.Lossless

/-!
The words that diagnostics point at. Each diagnostic is about one word of the script, which is of the kind that its code
speaks of. Only a name that is declared again and a block that is left open point at a second word, in front of it.
-/
set_option autoImplicit false

namespace ArmScript

/-- What a code says about the word that it is given for. Which word stands in front of it is told without the invalid
characters. -/
def Code.Fits (words : List Token) (word : Token) : Code → Prop
  | .e001 => word.kind = .invalid
  | .e100 => word.kind ≠ .invalid ∧ word.kind ≠ .endOfInput
  | .e101 => word.kind = .endOfInput
  | .e102 => ∃ method, word.kind = .method method ∧ method.signature.arity = .unary
  | .e103 => word.kind = .equals ∨ word.kind = .number
  | .e104 => word.kind = .identifier ∧ Behind .dot word (significant words)
  | .e200 => word.kind = .identifier
  | .e201 => word.kind = .identifier ∧ Behind .robot word (significant words)
  | .e202 | .e203 => word.kind = .number

structure DeclaresAgain (words : List Token) (first name : Token) : Prop where
  order : [first, name].Sublist words
  kind : first.kind = .identifier
  declared : Behind .robot first (significant words)
  lexeme : first.lexeme = name.lexeme

/-- A label that is not primary and ends where the word starts or before. It shows the first declaration of a name or
the brace of an open block. -/
structure Diagnostic.Explains (d : Diagnostic) (words : List Token) (word : Token) (label : Label) : Prop where
  secondary : label.isPrimary = false
  before : label.span.stop ≤ word.span.start
  subject : (d.code = some .e201 ∧ ∃ first, DeclaresAgain words first word ∧ label.span = first.span) ∨
    d.isOfOpenBlock = true ∧ ∃ brace ∈ words, brace.kind = .openBrace ∧ label.span = brace.span

/-- A diagnostic is about a word: it stands there, its code fits the word, and the first of its labels is at the word
and is the only primary one. -/
structure Diagnostic.PointsAt (d : Diagnostic) (words : List Token) (word : Token) : Prop where
  member : word ∈ words
  position : d.position = word.position
  code : ∃ c, d.code = some c ∧ c.stage = d.stage ∧ c.Fits words word
  labels : ∃ text others, d.labels = ⟨word.span, text, true⟩ :: others ∧ ∀ label ∈ others, d.Explains words word label

section Diagnostic
variable {words : List Token} {word : Token} {d : Diagnostic}

theorem pointsAt_coded {code : Code} {message label : String} {help : Option String} (member : word ∈ words)
    (fits : code.Fits words word) :
    (Diagnostic.coded code word.position message word.span label help).PointsAt words word :=
  ⟨member, rfl, ⟨code, rfl, rfl, fits⟩, ⟨label, [], rfl, by simp⟩⟩

theorem Diagnostic.PointsAt.withSecondaryLabel {span : Span} {text : String} (h : d.PointsAt words word)
    (explains : d.Explains words word ⟨span, text, false⟩) : (d.withSecondaryLabel span text).PointsAt words word := by
  obtain ⟨label, others, split, explain⟩ := h.labels
  refine ⟨h.member, h.position, h.code, label, others ++ [⟨span, text, false⟩], ?_, fun other ho => ?_⟩
  · rw [Diagnostic.withSecondaryLabel, split]
    rfl
  · have own : d.Explains words word other := by
      rcases List.mem_append.mp ho with ho | ho
      · exact explain other ho
      · exact List.mem_singleton.mp ho ▸ explains
    exact ⟨own.secondary, own.before, own.subject⟩

end Diagnostic

structure Script.Within (script : Script) (words : List Token) : Prop where
  part : script.body ++ [script.stop] <+: significant words
  inner : ∀ t ∈ script.body, t.kind ≠ .endOfInput
  ends : script.stop.kind = .endOfInput

theorem Script.within_ofTokens {tokens : List Token} {last : Token} (member : last ∈ tokens)
    (ends : last.kind = .endOfInput) : (Script.ofTokens tokens).Within tokens where
  part := (Script.isPrefix_ofTokens member ends).1
  inner t ht := by simpa using List.all_eq_true.mp List.all_takeWhile t ht
  ends := (Script.isPrefix_ofTokens member ends).2

section Events
variable {words : List Token} {script : Script}

theorem Script.Within.body (within : script.Within words) : script.body <+: significant words :=
  (List.prefix_append _ _).trans within.part

theorem Script.Within.place {word : Token} (within : script.Within words) (hw : word ∈ script.body ++ [script.stop]) :
    word ∈ words ∧ word.kind ≠ .invalid := by
  simpa [significant] using within.part.subset hw

theorem Script.Within.suits (within : script.Within words) : ∀ e ∈ script.read, e.Suits script.body :=
  readBlocks_suits within.ends (by simp) (List.suffix_refl script.body)

theorem fits_unexpectedCode {found : Token} (valid : found.kind ≠ .invalid) :
    (unexpectedCode found).Fits words found := by
  unfold unexpectedCode
  split
  · next ended => exact ended
  · next going => exact ⟨valid, going⟩

theorem Fault.pointsAt {cause : Fault} (within : script.Within words)
    (apart : words.Pairwise fun a b => a.span.stop ≤ b.span.start) (suits : cause.Suits script.body)
    (place : cause.place ∈ script.body ++ [script.stop]) : cause.diagnostic.PointsAt words cause.place := by
  obtain ⟨member, valid⟩ := within.place place
  cases cause with
  | unexpected wanted found => cases wanted <;> exact pointsAt_coded member (fits_unexpectedCode valid)
  | unknownMethod found => exact pointsAt_coded member ⟨suits.1, suits.2.mono within.body.isInfix⟩
  | badHeader robot wanted found => exact pointsAt_coded member (fits_unexpectedCode valid)
  | missingValue robot method name => exact pointsAt_coded member ⟨method, suits⟩
  | unexpectedValue robot method found => exact pointsAt_coded member suits
  | strayBrace brace =>
    have closes : brace.kind = .closeBrace := suits
    exact pointsAt_coded member ⟨valid, by simp [closes]⟩
  | unclosedBlock brace stop =>
    obtain ⟨opened, opens, ends⟩ := suits
    have behind : stop = script.stop := by
      rcases List.mem_append.mp place with inside | last
      · exact absurd ends (within.inner stop inside)
      · exact List.mem_singleton.mp last
    have before : brace.span.stop ≤ stop.span.start := by
      have ordered := apart.sublist (within.part.sublist.trans List.filter_sublist)
      exact behind ▸ (List.pairwise_append.mp ordered).2.2 brace opened _ (List.mem_singleton_self _)
    have member' : brace ∈ words := (within.place (List.mem_append_left _ opened)).1
    refine Diagnostic.PointsAt.withSecondaryLabel (pointsAt_coded member ?_)
      ⟨rfl, before, .inr ⟨rfl, brace, member', opens, rfl⟩⟩
    exact ends

theorem DuplicateRobot.pointsAt {first name : Token} (apart : words.Pairwise fun a b => a.span.stop ≤ b.span.start)
    (member : name ∈ words) (kind : name.kind = .identifier) (declared : Behind .robot name (significant words))
    (again : DeclaresAgain words first name) :
    (DuplicateRobot.diagnostic ⟨first.robot, name.robot⟩).PointsAt words name := by
  have before : first.span.stop ≤ name.span.start := by simpa using apart.sublist again.order
  refine Diagnostic.PointsAt.withSecondaryLabel (pointsAt_coded member ?_) ⟨rfl, before, .inl ⟨rfl, first, again, rfl⟩⟩
  exact ⟨kind, declared⟩

theorem pointsAt_checkArgument {method : Method} {range : ValueRange} {argument : Token} {fault : CallFault}
    (member : argument ∈ words) (number : argument.kind = .number)
    (h : checkArgument method range argument = some fault) : fault.diagnostic.PointsAt words argument := by
  unfold checkArgument at h
  split at h
  · cases h
    exact pointsAt_coded member number
  · split at h
    · cases h
    · cases h
      exact pointsAt_coded member number

theorem exists_pointsAt_checkCall {t : RobotTable} {robot : Token} {method : Method} {argument : Option Token}
    (members : ∀ word ∈ robot :: argument.toList, word ∈ words) (name : robot.kind = .identifier)
    (number : ∀ value ∈ argument, value.kind = .number) :
    ∀ fault ∈ t.checkCall robot method argument, ∃ word, fault.diagnostic.PointsAt words word := by
  intro fault hf
  unfold RobotTable.checkCall at hf
  rcases List.mem_append.mp hf with unknown | wrong
  · split at unknown
    · cases unknown
    · cases List.mem_singleton.mp unknown
      exact ⟨robot, pointsAt_coded (members robot List.mem_cons_self) name⟩
  · cases argument with
    | none => cases wrong
    | some value =>
      cases hr : method.range with
      | none => simp [hr] at wrong
      | some range =>
        have found : checkArgument method range value = some fault := by simpa [hr] using wrong
        exact ⟨value, pointsAt_checkArgument (members value (by simp)) (number value rfl) found⟩

end Events

theorem RobotTable.first_of_declare {t : RobotTable} {r : Robot} {d : DuplicateRobot} (h : t.declare r = .error d) :
    d.first ∈ t.robots ∧ d.first.name = r.name := by
  unfold declare at h
  split at h
  · next first found =>
    cases h
    exact ⟨List.mem_of_find?_eq_some found, by simpa using List.find?_some found⟩
  · cases h

theorem RobotTable.mem_afterAll {t : RobotTable} {events : List Event} {r : Robot}
    (h : r ∈ (t.afterAll events).robots) : r ∈ t.robots ∨ ∃ name, Event.declaration name ∈ events ∧ r = name.robot := by
  induction events generalizing t with
  | nil => exact .inl h
  | cons e events ih =>
    rcases ih h with known | ⟨name, later, rfl⟩
    · cases e with
      | declaration name =>
        simp only [after, declare] at known
        cases ht : t.robot? name.robot.name with
        | some first => exact .inl (by simpa [ht] using known)
        | none =>
          have either : r ∈ t.robots ∨ r = name.robot := by simpa [ht] using known
          exact either.imp_right fun new => ⟨name, List.mem_cons_self, new⟩
      | _ => exact .inl known
    · exact .inr ⟨name, List.mem_cons_of_mem e later, rfl⟩

theorem RobotTable.exists_declaration_of_declare {events : List Event} {name : Token} {d : DuplicateRobot}
    (h : (empty.afterAll events).declare name.robot = .error d) :
    ∃ first, Event.declaration first ∈ events ∧ first.lexeme = name.lexeme ∧ d = ⟨first.robot, name.robot⟩ := by
  obtain ⟨known, same⟩ := first_of_declare h
  have here : d.duplicate = name.robot := duplicate_of_declare h
  rcases mem_afterAll known with none | ⟨first, before, hf⟩
  · cases none
  · rw [hf] at same
    exact ⟨first, before, same, by rw [← here, ← hf]⟩

theorem exists_of_mem_collect {α : Type} {view : RobotTable → Event → List α} {t : RobotTable} {events : List Event}
    {a : α} (h : a ∈ collect view t events) :
    ∃ earlier e later, events = earlier ++ e :: later ∧ a ∈ view (t.afterAll earlier) e := by
  induction events generalizing t with
  | nil => cases h
  | cons e events ih =>
    rcases List.mem_append.mp h with here | there
    · exact ⟨[], e, events, rfl, here⟩
    · obtain ⟨earlier, found, later, rfl, shown⟩ := ih there
      exact ⟨e :: earlier, found, later, rfl, shown⟩

theorem sublist_declaredNames (ts : List Token) : (declaredNames ts).Sublist ts.tail := by
  fun_induction declaredNames ts with
  | case1 keyword name rest h ih => exact ih.cons_cons name
  | case2 keyword name rest h ih => exact ih.cons name
  | case3 ts short => exact List.nil_sublist _

theorem Script.sublist_declarations {script : Script} {earlier later : List Event} {first name : Token}
    (split : script.read = earlier ++ .declaration name :: later) (before : Event.declaration first ∈ earlier) :
    [first, name].Sublist script.body := by
  have names : declaredNames script.body =
      earlier.filterMap Event.declared? ++ name :: later.filterMap Event.declared? := by
    rw [← script.filterMap_declared_read, split, List.filterMap_append]
    rfl
  have declared : first ∈ earlier.filterMap Event.declared? := List.mem_filterMap.mpr ⟨_, before, rfl⟩
  have pair : [first, name].Sublist (declaredNames script.body) :=
    names ▸ (List.singleton_sublist.mpr declared).append (List.singleton_sublist.mpr List.mem_cons_self)
  exact pair.trans ((sublist_declaredNames script.body).trans (List.tail_sublist _))

theorem Script.Within.declaresAgain {words : List Token} {script : Script} {earlier later : List Event}
    {first name : Token} (within : script.Within words) (split : script.read = earlier ++ .declaration name :: later)
    (before : Event.declaration first ∈ earlier) (same : first.lexeme = name.lexeme) :
    DeclaresAgain words first name := by
  obtain ⟨kind, declared⟩ := within.suits (.declaration first) (split ▸ List.mem_append_left _ before)
  have order : [first, name].Sublist words :=
    (Script.sublist_declarations split before).trans (within.body.sublist.trans List.filter_sublist)
  exact ⟨order, kind, declared.mono within.body.isInfix, same⟩

section Run
variable {tokens : List Token} {last : Token}

theorem exists_pointsAt_added {s : Session} (fresh : s.robots = .empty)
    (apart : tokens.Pairwise fun a b => a.span.stop ≤ b.span.start) (member : last ∈ tokens)
    (ends : last.kind = .endOfInput) : ∀ d ∈ s.added tokens, ∃ word, d.PointsAt tokens word := by
  intro d hd
  have within := Script.within_ofTokens member ends
  generalize hs : Script.ofTokens tokens = script at within
  have places : ∀ e ∈ script.read, ∀ place ∈ e.places, place ∈ script.body ++ [script.stop] := fun e he place hp =>
    mem_places_readBlocks script.stop [] script.body place (List.mem_flatMap.mpr ⟨e, he, hp⟩)
  rw [s.added_eq, hs, fresh] at hd
  obtain ⟨earlier, e, later, split, shown⟩ := exists_of_mem_collect hd
  have read : e ∈ script.read := split ▸ List.mem_append_right earlier List.mem_cons_self
  cases e with
  | declaration name =>
    obtain ⟨kind, declared⟩ := within.suits _ read
    have member := (within.place (places _ read name (List.mem_singleton_self _))).1
    simp only [Event.diagnostics] at shown
    split at shown
    · cases shown
    · next duplicate again =>
      cases List.mem_singleton.mp shown
      obtain ⟨first, before, same, rfl⟩ := RobotTable.exists_declaration_of_declare again
      exact ⟨name, DuplicateRobot.pointsAt apart member kind (declared.mono within.body.isInfix)
        (within.declaresAgain split before same)⟩
  | call robot method argument =>
    obtain ⟨fault, hf, rfl⟩ := List.mem_map.mp shown
    obtain ⟨name, number⟩ := within.suits _ read
    exact exists_pointsAt_checkCall (fun word hw => (within.place (places _ read word hw)).1) name number fault hf
  | opened brace => cases shown
  | closed brace => cases shown
  | fault cause recovery =>
    cases List.mem_singleton.mp shown
    have place := places _ read cause.place (List.mem_singleton_self _)
    exact ⟨cause.place, Fault.pointsAt within apart (within.suits _ read) place⟩

end Run

theorem tokens_analyze (source : String) : (analyze source).tokens = tokenize source := by
  unfold analyze
  dsimp only
  split <;> rfl

theorem diagnostics_analyze (source : String) :
    let invalid := (invalidTokens (tokenize source)).map Token.invalidDiagnostic
    (analyze source).diagnostics = invalid ++ (Session.empty.report invalid).added (tokenize source) := by
  intro invalid
  have hl : (tokenize source).getLast? = some (.endOf source.toList) := (laid_tokenize source).getLast?_eq
  obtain ⟨reading, accepted, found⟩ := Session.empty.exists_analyze RobotTable.distinct_empty hl rfl
  simp only [analyze, accepted]
  exact found

/-- Every diagnostic of a script is about one of its words, which is of the kind that the code of the diagnostic speaks
of, and points there with the first and only primary of its labels. Other labels stand in front of the word and show the
first declaration of a name or the brace of an open block. -/
theorem exists_pointsAt_of_mem_diagnostics (source : String) :
    ∀ d ∈ (analyze source).diagnostics, ∃ word, d.PointsAt (analyze source).tokens word := by
  intro d hd
  have laid : Laid [] source.toList (tokenize source) := laid_tokenize source
  rw [diagnostics_analyze] at hd
  rw [tokens_analyze]
  rcases List.mem_append.mp hd with invalid | added
  · obtain ⟨word, hw, rfl⟩ := List.mem_map.mp invalid
    obtain ⟨member, kind⟩ := List.mem_filter.mp hw
    refine ⟨word, pointsAt_coded member ?_⟩
    exact beq_iff_eq.mp kind
  · exact exists_pointsAt_added rfl laid.pairwise_span (List.mem_of_getLast? laid.getLast?_eq) rfl d added

/-- A name that is declared again behind an invalid character. -/
theorem exists_pointsAt_name_again :
    let d := DuplicateRobot.diagnostic ⟨⟨"r", ⟨1, 7⟩, ⟨6, 7⟩⟩, ⟨"r", ⟨1, 17⟩, ⟨16, 17⟩⟩⟩
    d ∈ (analyze "Robot r Robot @ r").diagnostics ∧ ∃ word, d.PointsAt (analyze "Robot r Robot @ r").tokens word := by
  have found : DuplicateRobot.diagnostic ⟨⟨"r", ⟨1, 7⟩, ⟨6, 7⟩⟩, ⟨"r", ⟨1, 17⟩, ⟨16, 17⟩⟩⟩ ∈
      (analyze "Robot r Robot @ r").diagnostics := by decide +kernel
  exact ⟨found, exists_pointsAt_of_mem_diagnostics _ _ found⟩

end ArmScript
