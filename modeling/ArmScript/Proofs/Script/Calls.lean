import ArmScript.Proofs.Script.Sentence

/-!
The declarations and calls of a script, found word by word. A call counts where its own words complete it and a
declaration where its two words stand, whatever else is wrong with the script around them. Reading finds the same
ones in the same order.
-/
set_option autoImplicit false

namespace ArmScript

structure Call where
  robot : Token
  method : Method
  argument : Option Token
  deriving DecidableEq, Repr

def Call.event (c : Call) : Event := .call c.robot c.method c.argument

def argument? (method : Method) (ts : List Token) : Option (Option Token) :=
  match method.signature.arity, ts.map Token.kind with
  | .unary, .equals :: .number :: _ => if method = .repetir then none else some ts[1]?
  | .unary, .openParen :: .number :: .closeParen :: kinds =>
    if method = .repetir ∧ kinds.head? ≠ some .openBrace then none else some ts[1]?
  | .unary, _ => none
  | .nullary, .equals :: _ => none
  | .nullary, .openParen :: kinds => if kinds.head? = some .closeParen then some none else none
  | .nullary, _ => some none

/-- The complete call that starts with the first of the words. The name in a declaration starts none. -/
def callAt? (afterKeyword : Bool) : List Token → Option Call
  | robot :: dot :: name :: rest =>
    match afterKeyword, robot.kind, dot.kind, name.kind with
    | false, .identifier, .dot, .method m => (argument? m rest).map fun argument => ⟨robot, m, argument⟩
    | _, _, _, _ => none
  | _ => none

def endsWithKeyword (before : List Token) : Bool := before.getLast?.any fun t => t.kind == .robot

/-- The complete calls in the words behind the given ones, each with all words before it. -/
def calls (before : List Token) : List Token → List (List Token × Call)
  | [] => []
  | t :: ts =>
    ((callAt? (endsWithKeyword before) (t :: ts)).map fun c => (before, c)).toList ++ calls (before ++ [t]) ts

def declaredNames : List Token → List Token
  | keyword :: name :: rest =>
    if keyword.kind = .robot ∧ name.kind = .identifier then name :: declaredNames (name :: rest)
    else declaredNames (name :: rest)
  | _ => []

def statements (afterKeyword : Bool) : List Token → List Event
  | [] => []
  | t :: ts =>
    (if afterKeyword && t.kind == .identifier then [.declaration t] else []) ++
      (callAt? afterKeyword (t :: ts)).toList.map Call.event ++ statements (t.kind == .robot) ts

theorem callAt?_eq_none {afterKeyword : Bool} {t : Token} {ts : List Token}
    (h : afterKeyword = true ∨ t.kind ≠ .identifier ∨ nextKind ts ≠ .dot) :
    callAt? afterKeyword (t :: ts) = none := by
  unfold callAt?
  split
  · next robot dot name rest same =>
    cases same
    split <;> simp_all [nextKind]
  · rfl

theorem statements_cons {t : Token} {ts : List Token} (h : t.kind ≠ .identifier ∨ nextKind ts ≠ .dot) :
    statements false (t :: ts) = statements (t.kind == .robot) ts := by
  simp [statements, callAt?_eq_none (.inr h)]

theorem statements_passed {t : Token} {ts : List Token} {k : TokenKind} (ht : t.kind = k)
    (hk : k ≠ .robot ∧ k ≠ .identifier) : statements false (t :: ts) = statements false ts := by
  subst ht
  rw [statements_cons (.inl hk.2), beq_eq_false_iff_ne.mpr hk.1]

theorem statements_name {t : Token} {ts : List Token} (h : t.kind = .identifier) :
    statements false (t :: ts) = (callAt? false (t :: ts)).toList.map Call.event ++ statements false ts := by
  have hk : (t.kind == .robot) = false := by rw [h]; rfl
  simp [statements, hk]

theorem statements_keyword {t : Token} {ts : List Token} (ht : t.kind = .robot) (h : nextKind ts ≠ .identifier) :
    statements false (t :: ts) = statements false ts := by
  rw [statements_cons (.inl (by simp [ht])), beq_iff_eq.mpr ht]
  cases ts with
  | nil => rfl
  | cons u ts =>
    have hu : u.kind ≠ .identifier := h
    simp [statements, callAt?_eq_none, hu]

theorem statements_not_boundary {t : Token} {ts : List Token} (h : isBoundary t ts = false) :
    statements false (t :: ts) = statements false ts := by
  simp only [isBoundary, Bool.or_eq_false_iff, Bool.and_eq_false_iff, beq_eq_false_iff_ne] at h
  obtain ⟨⟨keyword, -⟩, start⟩ := h
  rw [statements_cons start, beq_eq_false_iff_ne.mpr keyword]

theorem statements_resume (ts : List Token) : statements false (resume ts) = statements false ts := by
  induction ts with
  | nil => rfl
  | cons t ts ih =>
    simp only [resume]
    split
    · rfl
    · next inner => rw [ih, statements_not_boundary (by simpa using inner)]

theorem statements_findBlock (ts : List Token) : statements false (findBlock ts).2 = statements false ts := by
  induction ts with
  | nil => rfl
  | cons t ts ih =>
    simp only [findBlock]
    split
    · next brace => rw [statements_not_boundary (by simp [isBoundary, brace])]
    · split
      · rfl
      · next inner => rw [ih, statements_not_boundary (by simpa using inner)]

section Head
variable {robot dot name : Token} {method : Method} {rest : List Token}

theorem statements_head (head : CallHead robot dot name method) :
    statements false (robot :: dot :: name :: rest) =
      ((argument? method rest).map fun argument => Event.call robot method argument).toList ++
        statements false rest := by
  rw [statements_name head.robot, statements_passed head.dot (by simp),
    statements_passed head.name (by simp)]
  cases h : argument? method rest <;>
    simp [callAt?, head.robot, head.dot, head.name, h, Call.event]

theorem argument?_bare (arity : method.signature.arity = .nullary) (ho : nextKind rest ≠ .openParen)
    (he : nextKind rest ≠ .equals) : argument? method rest = some none := by
  cases rest with
  | nil => simp [argument?, arity]
  | cons t rest =>
    simp only [nextKind] at ho he
    simp only [argument?, arity, List.map_cons]
    split <;> simp_all

end Head

theorem statements_complete {ts : List Token} {sentence : Sentence} (h : Complete ts sentence) :
    statements false ts = sentence.events.filter Event.isStatement ++ statements false sentence.rest := by
  cases h with
  | declaration hk hn =>
    rw [statements_cons (.inl (by simp [hk])), beq_iff_eq.mpr hk]
    simp [statements, callAt?_eq_none, hn, List.filter_cons, Event.isStatement]
    rfl
  | assignment head arity plain hs hn =>
    rw [statements_head head, statements_passed hs (by simp),
      statements_passed hn (by simp)]
    simp [argument?, arity, plain, hs, hn, List.filter_cons, Event.isStatement]
  | valueCall head arity plain value =>
    rw [statements_head head, statements_passed value.opening (by simp),
      statements_passed value.number (by simp),
      statements_passed value.closing (by simp)]
    simp [argument?, arity, plain, value.opening, value.number, value.closing, List.filter_cons, Event.isStatement]
  | bareCall head arity ho he =>
    rw [statements_head head, argument?_bare arity ho he]
    simp [List.filter_cons, Event.isStatement]
  | emptyCall head arity ho hc =>
    rw [statements_head head, statements_passed ho (by simp),
      statements_passed hc (by simp)]
    simp [argument?, arity, ho, hc, List.filter_cons, Event.isStatement]
  | header head value hb =>
    rw [statements_head head, statements_passed value.opening (by simp),
      statements_passed value.number (by simp),
      statements_passed value.closing (by simp),
      statements_passed hb (by simp)]
    have arity : Method.repetir.signature.arity = .unary := rfl
    simp [argument?, arity, value.opening, value.number, value.closing, hb, List.filter_cons, Event.isStatement]

theorem exists_complete_of_argument? {robot dot name : Token} {method : Method} {rest : List Token}
    {argument : Option Token} (head : CallHead robot dot name method) (h : argument? method rest = some argument) :
    ∃ sentence, Complete (robot :: dot :: name :: rest) sentence := by
  unfold argument? at h
  split at h
  · next arity kinds =>
    obtain ⟨sign, behind, rfl, hs, hb⟩ := List.map_eq_cons_iff.mp kinds
    obtain ⟨number, after, rfl, hn, -⟩ := List.map_eq_cons_iff.mp hb
    split at h
    · simp at h
    · next plain => exact ⟨_, .assignment head arity plain hs hn⟩
  · next others arity kinds =>
    obtain ⟨opening, behind, rfl, ho, hb⟩ := List.map_eq_cons_iff.mp kinds
    obtain ⟨number, after, rfl, hn, ha⟩ := List.map_eq_cons_iff.mp hb
    obtain ⟨closing, last, rfl, hc, hl⟩ := List.map_eq_cons_iff.mp ha
    by_cases plain : method = .repetir
    · subst plain
      subst hl
      cases last with
      | nil => simp at h
      | cons brace last =>
        have hb : brace.kind = .openBrace := by
          by_cases hb : brace.kind = .openBrace
          · exact hb
          · simp [hb] at h
        exact ⟨_, .header head ⟨ho, hn, hc⟩ hb⟩
    · exact ⟨_, .valueCall head arity plain ⟨ho, hn, hc⟩⟩
  · simp at h
  · simp at h
  · next arity kinds =>
    obtain ⟨opening, behind, rfl, ho, hb⟩ := List.map_eq_cons_iff.mp kinds
    subst hb
    cases behind with
    | nil => simp at h
    | cons closing behind =>
      have hc : closing.kind = .closeParen := by
        by_cases hc : closing.kind = .closeParen
        · exact hc
        · simp [hc] at h
      exact ⟨_, .emptyCall head arity ho hc⟩
  · next arity noSign noParen =>
    refine ⟨_, .bareCall head arity ?_ ?_⟩
    · intro here
      obtain ⟨t, ts, rfl, ht⟩ := exists_cons_of_nextKind here (by simp)
      exact noParen (ts.map Token.kind) (by simp [ht])
    · intro here
      obtain ⟨t, ts, rfl, ht⟩ := exists_cons_of_nextKind here (by simp)
      exact noSign (ts.map Token.kind) (by simp [ht])

theorem callAt?_incomplete {t : Token} {ts : List Token} (h : ∀ sentence, ¬Complete (t :: ts) sentence) :
    callAt? false (t :: ts) = none := by
  unfold callAt?
  split
  · next robot dot name rest same =>
    cases same
    split
    · next m _ hr hd hm =>
      cases ha : argument? m rest with
      | none => rfl
      | some argument =>
        obtain ⟨sentence, complete⟩ := exists_complete_of_argument? ⟨hr, hd, hm⟩ ha
        exact absurd complete (h sentence)
    · rfl
  · rfl

theorem statements_incomplete {t : Token} {ts : List Token} (h : ∀ sentence, ¬Complete (t :: ts) sentence) :
    statements false (t :: ts) = statements false ts := by
  by_cases hn : t.kind = .identifier
  · rw [statements_name hn, callAt?_incomplete h]
    rfl
  · by_cases hk : t.kind = .robot
    · refine statements_keyword hk fun here => ?_
      obtain ⟨name, rest, rfl, hn⟩ := exists_cons_of_nextKind here (by simp)
      exact h _ (.declaration hk hn)
    · exact statements_passed rfl ⟨hk, hn⟩

/-- Whatever becomes of a sentence, it gives the events of the words that it takes. -/
theorem statements_reads {ts : List Token} {sentence : Sentence} (h : Reads ts sentence) :
    statements false ts = sentence.events.filter Event.isStatement ++ statements false sentence.rest := by
  cases h with
  | complete complete => exact statements_complete complete
  | @brokenHeader robot dot name ts cause recovery head hc incomplete =>
    have opened : ∀ block : Option Token, (block.toList.map Event.opened).filter Event.isStatement = [] := by
      rintro (_ | brace) <;> rfl
    rw [statements_incomplete incomplete, statements_passed head.dot (by simp), statements_passed head.name (by simp)]
    simp [Sentence.ofHeader, Event.isStatement, opened, statements_findBlock]
  | broken hc incomplete headless =>
    rw [statements_incomplete incomplete]
    simp [Event.isStatement, statements_resume]

/-- Reading finds the declarations and calls that stand in the words, at any depth and after any fault. -/
theorem filter_isStatement_readBlocks (stop : Token) (blocks ts : List Token) :
    (readBlocks stop blocks ts).filter Event.isStatement = statements false ts := by
  fun_induction readBlocks stop blocks ts with
  | case1 blocks =>
    -- the blocks left open are faults, and no fault is a statement
    induction blocks with
    | nil => rfl
    | cons brace blocks ih => simpa [List.filter_cons, Event.isStatement] using ih
  | case2 t ts hc ih => rw [statements_passed hc (by simp), ← ih]; rfl
  | case3 t ts hc brace outer ih => rw [statements_passed hc (by simp), ← ih]; rfl
  | case4 blocks t ts hc sentence ih =>
    rw [List.filter_append, ih, statements_reads (reads_readStatement stop t ts)]

theorem endsWithKeyword_concat (before : List Token) (t : Token) :
    endsWithKeyword (before ++ [t]) = (t.kind == .robot) := by
  simp [endsWithKeyword]

theorem endsWithKeyword_cons_cons (a b : Token) (before : List Token) :
    endsWithKeyword (a :: b :: before) = endsWithKeyword (b :: before) := by
  simp [endsWithKeyword]

theorem declaredNames_concat (before : List Token) (t : Token) :
    declaredNames (before ++ [t]) =
      declaredNames before ++ if endsWithKeyword before && t.kind == .identifier then [t] else [] := by
  fun_induction declaredNames before with
  | case1 keyword name rest h ih =>
    rw [endsWithKeyword_cons_cons]
    simpa [declaredNames, h] using ih
  | case2 keyword name rest h ih =>
    rw [endsWithKeyword_cons_cons]
    simpa [declaredNames, h] using ih
  | case3 before short =>
    match before with
    | [] => rfl
    | [keyword] => simp [declaredNames, endsWithKeyword]
    | keyword :: name :: rest => exact absurd rfl (short keyword name rest)

theorem statements_eq_append (before : List Token) (t : Token) (ts : List Token) :
    statements (endsWithKeyword before) (t :: ts) =
      (if endsWithKeyword before && t.kind == .identifier then [.declaration t] else []) ++
        (callAt? (endsWithKeyword before) (t :: ts)).toList.map Call.event ++
          statements (endsWithKeyword (before ++ [t])) ts := by
  rw [endsWithKeyword_concat]
  rfl

def Event.declared? : Event → Option Token
  | .declaration name => some name
  | _ => none

theorem declaredNames_append (before ts : List Token) :
    declaredNames (before ++ ts) =
      declaredNames before ++ (statements (endsWithKeyword before) ts).filterMap Event.declared? := by
  induction ts generalizing before with
  | nil => simp [statements]
  | cons t ts ih =>
    have called : ∀ c : Option Call, (c.toList.map Call.event).filterMap Event.declared? = [] := by
      rintro (_ | c) <;> rfl
    rw [List.append_cons, ih, declaredNames_concat, statements_eq_append]
    simp only [List.filterMap_append, called, List.append_assoc]
    cases endsWithKeyword before && t.kind == .identifier <;> rfl

theorem length_statements (before ts : List Token) :
    (statements (endsWithKeyword before) ts).length =
      (calls before ts).length + ((statements (endsWithKeyword before) ts).filterMap Event.declared?).length := by
  induction ts generalizing before with
  | nil => rfl
  | cons t ts ih =>
    have rest := ih (before ++ [t])
    rw [statements_eq_append, calls]
    simp only [List.length_append, List.filterMap_append]
    cases callAt? (endsWithKeyword before) (t :: ts) <;>
      cases endsWithKeyword before && t.kind == .identifier <;>
        simp [List.filterMap_cons, Event.declared?, Call.event] <;> omega

theorem Script.filter_isStatement_read (s : Script) :
    s.read.filter Event.isStatement = statements (endsWithKeyword []) s.body :=
  filter_isStatement_readBlocks s.stop [] s.body

theorem Script.filterMap_declared_read (s : Script) :
    s.read.filterMap Event.declared? = declaredNames s.body := by
  have names : declaredNames s.body = (s.read.filter Event.isStatement).filterMap Event.declared? := by
    rw [s.filter_isStatement_read]
    exact declaredNames_append [] s.body
  rw [names, List.filterMap_filter]
  congr 1
  funext e
  cases e <;> rfl

theorem Script.countStatements_read (s : Script) :
    countStatements s.read = (calls [] s.body).length + (declaredNames s.body).length := by
  have names : declaredNames s.body = (statements (endsWithKeyword []) s.body).filterMap Event.declared? :=
    declaredNames_append [] s.body
  rw [countStatements, List.countP_eq_length_filter, s.filter_isStatement_read, length_statements, names]

end ArmScript
