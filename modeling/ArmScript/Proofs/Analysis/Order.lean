import ArmScript.Analysis.Basic
import ArmScript.Proofs.Analysis.Added
import ArmScript.Proofs.Robot.Table
import ArmScript.Proofs.Script.Places

set_option autoImplicit false

namespace ArmScript

theorem Script.isPrefix_ofTokens {tokens : List Token} {last : Token} (member : last ∈ tokens)
    (ends : last.kind = .endOfInput) :
    (Script.ofTokens tokens).body ++ [(Script.ofTokens tokens).stop] <+: significant tokens ∧
      (Script.ofTokens tokens).stop.kind = .endOfInput := by
  have kept : last ∈ significant tokens := List.mem_filter.mpr ⟨member, by rw [ends]; rfl⟩
  obtain ⟨stop, found⟩ : ∃ stop, (significant tokens).find? (fun t => t.kind == .endOfInput) = some stop :=
    Option.isSome_iff_exists.mp (List.find?_isSome.mpr ⟨last, kept, beq_iff_eq.mpr ends⟩)
  obtain ⟨hs, before, after, split, inner⟩ := List.find?_eq_some_iff_append.mp found
  have body : (Script.ofTokens tokens).body = before := by
    simp only [ofTokens, split]
    rw [List.takeWhile_append_of_pos (fun t ht => by simpa using inner t ht)]
    simp [beq_iff_eq.mp hs]
  rw [body, ofTokens, found]
  exact ⟨⟨after, by rw [split, List.append_assoc]; rfl⟩, beq_iff_eq.mp hs⟩

theorem Script.sublist_ofTokens {tokens : List Token} {last : Token} (member : last ∈ tokens)
    (ends : last.kind = .endOfInput) :
    ((Script.ofTokens tokens).body ++ [(Script.ofTokens tokens).stop]).Sublist tokens :=
  (Script.isPrefix_ofTokens member ends).1.sublist.trans List.filter_sublist

section Events
variable (t : RobotTable)

theorem position_checkArgument {method : Method} {range : ValueRange} {argument : Token} {fault : CallFault}
    (h : checkArgument method range argument = some fault) :
    fault.diagnostic.position = argument.position := by
  unfold checkArgument at h
  split at h
  · cases h
    rfl
  · split at h
    · cases h
    · cases h
      rfl

theorem position_checkCall (robot : Token) (method : Method) (argument : Option Token) :
    ((t.checkCall robot method argument).map fun fault => fault.diagnostic.position).Sublist
      (robot.position :: argument.toList.map Token.position) := by
  have name : ((if t.isDeclared robot.lexeme then [] else [CallFault.undeclared robot]).map
      fun fault => fault.diagnostic.position).Sublist [robot.position] := by
    split
    · exact List.nil_sublist _
    · exact List.Sublist.refl _
  unfold RobotTable.checkCall
  rw [List.map_append]
  refine name.append ?_
  cases argument with
  | none => exact List.nil_sublist _
  | some argument =>
    cases method.range with
    | none => exact List.nil_sublist _
    | some range =>
      cases h : checkArgument method range argument with
      | none => simp [h]
      | some fault => simp [h, position_checkArgument h]

theorem Event.position_diagnostics (e : Event) :
    ((e.diagnostics t).map Diagnostic.position).Sublist (e.places.map Token.position) := by
  cases e with
  | declaration name =>
    simp only [diagnostics]
    cases hd : t.declare name.robot with
    | ok declared => exact List.nil_sublist _
    | error duplicate =>
      have here : duplicate.duplicate = name.robot := RobotTable.duplicate_of_declare hd
      simp [places, DuplicateRobot.diagnostic, Diagnostic.withSecondaryLabel, Diagnostic.coded, here, Token.robot]
  | call robot method argument =>
    simpa [diagnostics, places, Function.comp_def] using position_checkCall t robot method argument
  | fault cause recovery => simp [diagnostics, places, cause.position_diagnostic]
  | opened brace => exact List.nil_sublist _
  | closed brace => exact List.nil_sublist _

theorem position_collect (events : List Event) :
    ((collect Event.diagnostics t events).map Diagnostic.position).Sublist
      ((events.flatMap Event.places).map Token.position) := by
  induction events generalizing t with
  | nil => exact List.Sublist.refl _
  | cons e events ih =>
    rw [collect, List.flatMap_cons, List.map_append, List.map_append]
    exact (e.position_diagnostics t).append (ih _)

theorem Event.stage_diagnostics (e : Event) :
    ∀ d ∈ e.diagnostics t, d.stage = .grammar ∨ d.stage = .semantic := by
  intro d hd
  cases e with
  | declaration name =>
    simp only [diagnostics] at hd
    split at hd
    · cases hd
    · cases List.mem_singleton.mp hd
      exact .inr rfl
  | call robot method argument =>
    obtain ⟨fault, -, rfl⟩ := List.mem_map.mp hd
    exact .inr fault.stage_diagnostic
  | fault cause recovery =>
    cases List.mem_singleton.mp hd
    exact .inl cause.stage_diagnostic
  | opened brace => cases hd
  | closed brace => cases hd

theorem stage_collect (events : List Event) :
    ∀ d ∈ collect Event.diagnostics t events, d.stage = .grammar ∨ d.stage = .semantic := by
  induction events generalizing t with
  | nil => simp [collect]
  | cons e events ih => exact List.forall_mem_append.mpr ⟨e.stage_diagnostics t, ih _⟩

theorem RobotTable.Distinct.afterAll {t : RobotTable} (h : t.Distinct) (events : List Event) :
    (t.afterAll events).Distinct := by
  induction events generalizing t with
  | nil => exact h
  | cons e events ih =>
    have next : (t.after e).Distinct := by
      cases e with
      | declaration name =>
        simp only [after]
        split
        · next declared hd => exact h.declare hd
        · exact h
      | _ => exact h
    exact ih next

end Events

section Session
variable {tokens : List Token} {last : Token}

theorem Session.pairwise_position_added (s : Session) (ordered : tokens.Pairwise fun a b => a.position < b.position)
    (member : last ∈ tokens) (ends : last.kind = .endOfInput) :
    (s.added tokens).Pairwise fun d e => d.position ≤ e.position := by
  have words := ordered.sublist (Script.sublist_ofTokens member ends)
  have places := (places_readBlocks _ [] _ words).2
  rw [s.added_eq, ← List.pairwise_map (f := Diagnostic.position) (R := fun p q => p ≤ q)]
  exact (List.pairwise_map.mpr places).sublist (position_collect s.robots _)

theorem Session.duplicates_read (s : Session) (h : s.robots.Distinct) (tokens : List Token) :
    (s.read tokens).session.robots.duplicates = [] :=
  (h.afterAll _).duplicates_eq_nil

/-- Words that end with the end of the input are accepted, and all that is found about them are the invalid characters
and then what the run adds. -/
theorem Session.exists_analyze (s : Session) (h : s.robots.Distinct) (hl : tokens.getLast? = some last)
    (ends : last.kind = .endOfInput) :
    let invalid := (invalidTokens tokens).map Token.invalidDiagnostic
    ∃ reading, s.analyze tokens = .ok reading ∧
      reading.session.diagnostics = s.diagnostics ++ (invalid ++ (s.report invalid).added tokens) := by
  intro invalid
  have swept := (s.report invalid).duplicates_read h tokens
  simp only [analyze, hl, ends]
  refine ⟨_, rfl, ?_⟩
  rw [swept]
  simp [report, read, added_eq, invalid]

end Session

/-- What is wrong with a script, in the order in which it is found. First come the invalid characters, one diagnostic
for each, at positions that grow strictly. All others are about sentences, names and values and stand, mixed, in the
order of their positions. The search for duplicates at the end finds none. -/
theorem diagnostics_in_order (source : String) :
    let words := tokenize source
    let invalid := (invalidTokens words).map Token.invalidDiagnostic
    let session := Session.empty.report invalid
    let added := session.added words
    (analyze source).diagnostics = invalid ++ added ∧
      (∀ d ∈ invalid, d.stage = .lexical) ∧
      (invalid.Pairwise fun d e => d.position < e.position) ∧
      (∀ d ∈ added, d.stage = .grammar ∨ d.stage = .semantic) ∧
      (added.Pairwise fun d e => d.position ≤ e.position) ∧
      (session.read words).session.robots.duplicates = [] := by
  intro words invalid session added
  have ordered : words.Pairwise fun a b => a.position < b.position := pairwise_position_tokenize source
  have hl : words.getLast? = some (.endOf source.toList) := (laid_tokenize source).getLast?_eq
  obtain ⟨reading, accepted, found⟩ := Session.empty.exists_analyze RobotTable.distinct_empty hl rfl
  refine ⟨?_, ?_, ?_, ?_, ?_, ?_⟩
  · have result : (analyze source).diagnostics = reading.session.diagnostics := by
      simp only [analyze]
      rw [accepted]
    rw [result, found]
    rfl
  · exact List.forall_mem_map.mpr fun _ _ => rfl
  · exact List.pairwise_map.mpr (ordered.sublist List.filter_sublist)
  · have events : added = collect Event.diagnostics session.robots (Script.ofTokens words).read :=
      session.added_eq words
    rw [events]
    exact stage_collect _ _
  · exact session.pairwise_position_added ordered (List.mem_of_getLast? hl) rfl
  · exact session.duplicates_read RobotTable.distinct_empty words

end ArmScript
