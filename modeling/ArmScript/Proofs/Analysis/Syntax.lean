import ArmScript.Proofs.Analysis.Added
import ArmScript.Proofs.Script.Segments

set_option autoImplicit false

namespace ArmScript

/-- A run adds no diagnostic of the grammar exactly when the words are those of a tree. There is one such tree
then, and its sentences are those that the run counts. -/
theorem Session.wellFormed_iff_program (s : Session) (tokens : List Token) :
    let words := (tokens.filter fun t => t.kind != .invalid).takeWhile fun t => t.kind != .endOfInput
    ((∀ d ∈ s.added tokens, d.stage ≠ .grammar) ↔ ∃ p : Program, p.words = words) ∧
      ∀ p : Program, p.words = words →
        (∀ q : Program, q.words = words → q = p) ∧ (s.read tokens).statements = p.size := by
  intro words
  refine ⟨(s.grammar_silent_iff tokens).trans (Script.ofTokens tokens).faultless_iff, fun p hp => ⟨fun q hq => ?_, ?_⟩⟩
  · exact Program.eq_of_words (hq.trans hp.symm)
  · have script : p.words = (Script.ofTokens tokens).body := hp
    rw [← p.countStatements_events, ← Script.read_of_program script]
    rfl

def nested : Program :=
  .simple (.declaration ⟨⟨"Robot", .robot, ⟨1, 1⟩, ⟨0, 5⟩⟩, rfl⟩ ⟨⟨"r", .identifier, ⟨1, 7⟩, ⟨6, 7⟩⟩, rfl⟩)
    (.block
      ⟨⟨⟨"r", .identifier, ⟨2, 1⟩, ⟨8, 9⟩⟩, rfl⟩, ⟨⟨".", .dot, ⟨2, 2⟩, ⟨9, 10⟩⟩, rfl⟩,
        ⟨⟨"repetir", .method .repetir, ⟨2, 3⟩, ⟨10, 17⟩⟩, rfl⟩, ⟨⟨"(", .openParen, ⟨2, 10⟩, ⟨17, 18⟩⟩, rfl⟩,
        ⟨⟨"3", .number, ⟨2, 11⟩, ⟨18, 19⟩⟩, rfl⟩, ⟨⟨")", .closeParen, ⟨2, 12⟩, ⟨19, 20⟩⟩, rfl⟩,
        ⟨⟨"\x7b", .openBrace, ⟨2, 14⟩, ⟨21, 22⟩⟩, rfl⟩⟩ .done
      ⟨⟨"\x7d", .closeBrace, ⟨2, 16⟩, ⟨23, 24⟩⟩, rfl⟩ .done)

theorem nested_wellFormed :
    let tokens := nested.words
    let words := (tokens.filter fun t => t.kind != .invalid).takeWhile fun t => t.kind != .endOfInput
    nested.words = words ∧ (∀ q : Program, q.words = words → q = nested) ∧
      (Session.empty.read tokens).statements = 2 :=
  ⟨rfl, (Session.wellFormed_iff_program .empty nested.words).2 nested rfl⟩

/-- One diagnostic for each segment of the words that is not well formed, for each brace that closes nothing, and
for each block that nothing closes. -/
theorem Session.countStage_of_words (s : Session) (tokens : List Token) :
    let words := (tokens.filter fun t => t.kind != .invalid).takeWhile fun t => t.kind != .endOfInput
    let braces := pairBraces [] (marked words)
    countStage (s.added tokens) .grammar = countBroken (segments words) + braces.1.length + braces.2.length := by
  intro words braces
  have faults := length_faults_readBlocks (Script.ofTokens tokens).stop [] words
  rw [countStage, List.countP_eq_length_filter, s.filter_grammar_added, List.length_map]
  exact faults

end ArmScript
