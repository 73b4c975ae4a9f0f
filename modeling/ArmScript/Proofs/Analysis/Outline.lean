import Mathlib.Data.List.Forall2
import ArmScript.Proofs.Analysis.Added
import ArmScript.Proofs.Script.Kinds
import ArmScript.Token.Stream

/-!
What a run says about sentences is the same for all spellings of their words and for all sessions. Names and values show
in messages and in advice, but never in what is wrong or where.
-/
set_option autoImplicit false

namespace ArmScript

def Token.Alike (a b : Token) : Prop := a.kind = b.kind ∧ a.position = b.position ∧ a.span = b.span

instance (a b : Token) : Decidable (a.Alike b) :=
  inferInstanceAs (Decidable (a.kind = b.kind ∧ a.position = b.position ∧ a.span = b.span))

def Token.unspelled (t : Token) : Token := { t with lexeme := "" }

theorem Token.Alike.unspelled_eq {a b : Token} (h : a.Alike b) : a.unspelled = b.unspelled := by
  obtain ⟨kind, position, span⟩ := h
  simp only [unspelled, kind, position, span]

theorem map_unspelled_eq {tokens others : List Token} (h : List.Forall₂ Token.Alike tokens others) :
    tokens.map Token.unspelled = others.map Token.unspelled := by
  induction h with
  | nil => rfl
  | cons first _ ih => rw [List.map_cons, List.map_cons, first.unspelled_eq, ih]

theorem impliedStop_unspelled (tokens : List Token) :
    impliedStop (tokens.map Token.unspelled) = (impliedStop tokens).unspelled := by
  simp only [impliedStop, List.getLast?_map]
  cases tokens.getLast? <;> rfl

theorem Script.read_unspelled (tokens : List Token) :
    (Script.ofTokens (tokens.map Token.unspelled)).read =
      (Script.ofTokens tokens).read.map (Event.map Token.unspelled) := by
  have kinds : ∀ t : Token, t.unspelled.kind = t.kind := fun _ => rfl
  rw [Script.ofTokens_map kinds (impliedStop_unspelled tokens), Script.read_map kinds]

/-- A diagnostic up to its message and its advice. -/
def Diagnostic.outline (d : Diagnostic) : Diagnostic := { d with message := "", help := none }

theorem outline_coded {code : Code} {position : Position} {span : Span} {label : String} {message message' : String}
    {help help' : Option String} :
    (Diagnostic.coded code position message span label help).outline =
      (Diagnostic.coded code position message' span label help').outline := rfl

theorem Fault.outline_unspelled (cause : Fault) :
    (cause.map Token.unspelled).diagnostic.outline = cause.diagnostic.outline := by
  cases cause with
  | unexpected wanted found => cases wanted <;> exact outline_coded
  | unknownMethod found => exact outline_coded
  | badHeader robot wanted found => exact outline_coded
  | missingValue robot method name => exact outline_coded
  | unexpectedValue robot method found => exact outline_coded
  | strayBrace brace => exact outline_coded
  | unclosedBlock brace stop => rfl

def Session.outlines (s : Session) (tokens : List Token) : List Diagnostic :=
  ((s.added tokens).filter fun d => d.stage == .grammar).map Diagnostic.outline

theorem Session.outlines_unspelled (s t : Session) (tokens : List Token) :
    s.outlines (tokens.map Token.unspelled) = t.outlines tokens := by
  rw [outlines, outlines, filter_grammar_added, filter_grammar_added, Script.read_unspelled, filterMap_fault?_map]
  simp only [List.map_map, Function.comp_def, Fault.outline_unspelled]

theorem Session.statements_unspelled (s t : Session) (tokens : List Token) :
    (s.read (tokens.map Token.unspelled)).statements = (t.read tokens).statements := by
  simp only [read, Script.read_unspelled, countStatements_map]

/-- Two runs over words that differ in their spelling at most count the same sentences, and they say the same about them
up to messages and advice, whatever robots the two sessions have. -/
theorem Session.outlines_of_alike (s t : Session) {tokens others : List Token}
    (h : List.Forall₂ Token.Alike tokens others) :
    (s.read tokens).statements = (t.read others).statements ∧ s.outlines tokens = t.outlines others := by
  have same := map_unspelled_eq h
  constructor
  · rw [← s.statements_unspelled s, same, s.statements_unspelled t]
  · rw [← s.outlines_unspelled s, same, s.outlines_unspelled t]

/-- Two scripts with other names and numbers, the second in a session that has one of the names. -/
theorem outlines_other_names :
    List.Forall₂ Token.Alike (tokenize "Robot r r.repetir 9 \x7b r.base") (tokenize "Robot q x.repetir 0 \x7b z.base") ∧
      (Session.empty.read (tokenize "Robot r r.repetir 9 \x7b r.base")).statements =
        (Session.read ⟨⟨[⟨"q", .start, ⟨0, 1⟩⟩]⟩, []⟩ (tokenize "Robot q x.repetir 0 \x7b z.base")).statements ∧
      Session.empty.outlines (tokenize "Robot r r.repetir 9 \x7b r.base") =
        Session.outlines ⟨⟨[⟨"q", .start, ⟨0, 1⟩⟩]⟩, []⟩ (tokenize "Robot q x.repetir 0 \x7b z.base") := by
  have h : List.Forall₂ Token.Alike (tokenize "Robot r r.repetir 9 \x7b r.base")
      (tokenize "Robot q x.repetir 0 \x7b z.base") := by decide +kernel
  exact ⟨h, Session.outlines_of_alike _ _ h⟩

end ArmScript
