import ArmScript.Proofs.Analysis.Added
import ArmScript.Proofs.Script.Grammar
import ArmScript.Token.Stream

/-!
Scripts that are read one behind the other. Where the first one is complete and what follows does not go on with its
last call, reading both at once is reading the first one and then, in the session that it leaves, the second one.
-/
set_option autoImplicit false

namespace ArmScript

section Append
variable {first rest : List Token} {stop : Token}

theorem significant_append (first rest : List Token) :
    significant (first ++ rest) = significant first ++ significant rest := List.filter_append first rest

theorem Script.ofTokens_append (unended : ∀ t ∈ first, t.kind ≠ .endOfInput)
    (ends : ∃ t ∈ rest, t.kind = .endOfInput) :
    Script.ofTokens (first ++ rest) =
      ⟨significant first ++ (Script.ofTokens rest).body, (Script.ofTokens rest).stop⟩ := by
  have kept : ∀ t ∈ significant first, t.kind ≠ .endOfInput := fun t ht => unended t (List.mem_filter.mp ht).1
  have passed : (significant first).find? (fun t => t.kind == .endOfInput) = none :=
    List.find?_eq_none.mpr fun t ht => by simpa using kept t ht
  obtain ⟨t, ht, hk⟩ := ends
  have valid : t ∈ significant rest := List.mem_filter.mpr ⟨ht, by rw [hk]; rfl⟩
  obtain ⟨last, found⟩ : ∃ last, (significant rest).find? (fun t => t.kind == .endOfInput) = some last :=
    Option.isSome_iff_exists.mp (List.find?_isSome.mpr ⟨t, valid, beq_iff_eq.mpr hk⟩)
  simp only [ofTokens, significant_append]
  rw [List.takeWhile_append_of_pos fun t ht => by simpa using kept t ht, List.find?_append, passed, found]
  rfl

theorem Script.body_stop (hs : stop.kind = .endOfInput) : (Script.ofTokens [stop]).body = [] := by
  simp [ofTokens, significant, hs]

theorem Detached.body {words : List Token} (h : Detached (significant words)) (hs : stop.kind = .endOfInput) :
    Detached (Script.ofTokens (words ++ [stop])).body := by
  have valid : significant [stop] = [stop] := by simp [significant, hs]
  rw [Script.ofTokens, significant_append, valid]
  cases hw : significant words with
  | nil => simp [hs, Detached, nextKind]
  | cons t ts =>
    rw [hw] at h
    by_cases ht : t.kind = .endOfInput
    · simp [ht, Detached, nextKind]
    · simpa [ht, Detached, nextKind] using h

/-- Behind a complete script reading goes on as if it started there. -/
theorem Script.read_append {p : Program} (complete : p.words = significant first)
    (unended : ∀ t ∈ first, t.kind ≠ .endOfInput) (ends : ∃ t ∈ rest, t.kind = .endOfInput)
    (detached : Detached (Script.ofTokens rest).body) :
    (Script.ofTokens (first ++ rest)).read = p.events ++ (Script.ofTokens rest).read := by
  rw [Script.ofTokens_append unended ends, ← complete]
  exact readBlocks_words p detached

end Append

theorem countStatements_append (xs ys : List Event) :
    countStatements (xs ++ ys) = countStatements xs + countStatements ys := List.countP_append

theorem RobotTable.afterAll_append (t : RobotTable) (xs ys : List Event) :
    t.afterAll (xs ++ ys) = (t.afterAll xs).afterAll ys := List.foldl_append

section Session
variable {first second : List Token} {middle stop : Token}

/-- One run over a complete script and what follows it leaves the same session as two runs, adds the same diagnostics
in the same order and counts the same sentences. What follows may be as broken as it likes. -/
theorem Session.read_in_sequence (s : Session) (complete : ∃ p : Program, p.words = significant first)
    (unended : ∀ t ∈ first, t.kind ≠ .endOfInput) (detached : Detached (significant second))
    (hm : middle.kind = .endOfInput) (hs : stop.kind = .endOfInput) :
    let whole := s.read (first ++ second ++ [stop])
    let earlier := s.read (first ++ [middle])
    let later := earlier.session.read (second ++ [stop])
    whole.session = later.session ∧ whole.statements = earlier.statements + later.statements ∧
      s.added (first ++ second ++ [stop]) = s.added (first ++ [middle]) ++ earlier.session.added (second ++ [stop]) := by
  intro whole earlier later
  obtain ⟨p, complete⟩ := complete
  have last : Detached (Script.ofTokens [middle]).body := by
    rw [Script.body_stop hm]
    simp [Detached, nextKind]
  have alone : (Script.ofTokens (first ++ [middle])).read = p.events := by
    rw [Script.read_append complete unended ⟨middle, by simp, hm⟩ last, Script.read, Script.body_stop hm]
    simp [readBlocks]
  have both : (Script.ofTokens (first ++ second ++ [stop])).read =
      p.events ++ (Script.ofTokens (second ++ [stop])).read := by
    rw [List.append_assoc]
    exact Script.read_append complete unended ⟨stop, by simp, hs⟩ (detached.body hs)
  have robots : earlier.session.robots = s.robots.afterAll p.events := by simp only [earlier, read, alone]
  refine ⟨?_, ?_, ?_⟩
  · simp only [whole, later, earlier, read, alone, both, collect_append, RobotTable.afterAll_append,
      ← List.append_assoc]
  · simp only [whole, later, earlier, read, alone, both, countStatements_append]
  · rw [added_eq, added_eq, added_eq, robots, alone, both, collect_append]

end Session

/-- A call without a value, an invalid character, and then a robot that is declared twice and a block that is not
closed. -/
theorem read_in_sequence_broken :
    let first := (tokenize "Robot r @ r.iniciar").dropLast
    let second := (tokenize ") r.base(400) Robot r x.repetir \x7b r").dropLast
    let stop : Token := ⟨"", .endOfInput, ⟨9, 9⟩, ⟨99, 99⟩⟩
    let earlier := Session.empty.read (first ++ [⟨"?", .endOfInput, .start, ⟨7, 3⟩⟩])
    (∃ p : Program, p.words = significant first) ∧ (∀ t ∈ first, t.kind ≠ .endOfInput) ∧ Detached (significant second) ∧
      (Session.empty.read (first ++ second ++ [stop])).session = (earlier.session.read (second ++ [stop])).session := by
  have complete : ∃ p : Program, p.words = significant (tokenize "Robot r @ r.iniciar").dropLast :=
    (Script.faultless_iff ⟨_, impliedStop []⟩).mp (by decide +kernel)
  have unended : ∀ t ∈ (tokenize "Robot r @ r.iniciar").dropLast, t.kind ≠ .endOfInput := by decide +kernel
  have detached : Detached (significant (tokenize ") r.base(400) Robot r x.repetir \x7b r").dropLast) := by
    refine ⟨?_, ?_⟩ <;> decide +kernel
  exact ⟨complete, unended, detached, (Session.empty.read_in_sequence complete unended detached rfl rfl).1⟩

end ArmScript
