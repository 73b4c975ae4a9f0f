import ArmScript.Proofs.Script.Places

set_option autoImplicit false

namespace ArmScript

def Behind (kind : TokenKind) (word : Token) (words : List Token) : Prop :=
  ∃ before : Token, before.kind = kind ∧ [before, word] <:+: words

/-- What a fault says about its words, which stand among the given ones. -/
def Fault.Suits (words : List Token) : Fault → Prop
  | .unexpected _ _ | .badHeader _ _ _ => True
  | .unknownMethod found => found.kind = .identifier ∧ Behind .dot found words
  | .missingValue _ method name => name.kind = .method method ∧ method.signature.arity = .unary
  | .unexpectedValue _ _ found => found.kind = .equals ∨ found.kind = .number
  | .strayBrace brace => brace.kind = .closeBrace
  | .unclosedBlock brace stop => brace ∈ words ∧ brace.kind = .openBrace ∧ stop.kind = .endOfInput

def Event.Suits (words : List Token) : Event → Prop
  | .declaration name => name.kind = .identifier ∧ Behind .robot name words
  | .call robot _ argument => robot.kind = .identifier ∧ ∀ number ∈ argument, number.kind = .number
  | .opened brace => brace ∈ words ∧ brace.kind = .openBrace
  | .closed brace => brace.kind = .closeBrace
  | .fault cause _ => cause.Suits words

section Words
variable {words more : List Token}

theorem Behind.mono {kind : TokenKind} {word : Token} (h : Behind kind word words) (part : words <:+: more) :
    Behind kind word more := by
  obtain ⟨before, hk, here⟩ := h
  exact ⟨before, hk, here.trans part⟩

theorem Fault.Suits.mono {cause : Fault} (h : cause.Suits words) (part : words <:+: more) : cause.Suits more := by
  cases cause with
  | unknownMethod found => exact ⟨h.1, h.2.mono part⟩
  | unclosedBlock brace stop => exact ⟨part.subset h.1, h.2⟩
  | _ => exact h

theorem Event.Suits.mono {e : Event} (h : e.Suits words) (part : words <:+: more) : e.Suits more := by
  cases e with
  | declaration name => exact ⟨h.1, h.2.mono part⟩
  | call robot method argument => exact h
  | opened brace => exact ⟨part.subset h.1, h.2⟩
  | closed brace => exact h
  | fault cause recovery => exact Fault.Suits.mono h part

end Words

section Readers
variable {robot dot name stop : Token} {method : Method} {words ts : List Token} {broken : Broken}

theorem expect_suits {kind : TokenKind} {fault : Token → Fault} (h : expect kind fault stop ts = .error broken)
    (hf : ∀ t, (fault t).Suits words) : broken.fault.Suits words := by
  cases ts with
  | nil =>
    simp only [expect, Except.error.injEq] at h
    exact h ▸ hf stop
  | cons t ts =>
    simp only [expect] at h
    split at h
    · cases h
    · cases h
      exact hf t

theorem readValue_suits (hn : name.kind = .method method) (takes : method.signature.arity = .unary)
    (h : readValue robot method name stop ts = .error broken) : broken.fault.Suits words := by
  unfold readValue at h
  split at h
  · exact expect_suits h fun _ => trivial
  · split at h
    · cases h
      exact ⟨hn, takes⟩
    · split at h
      · next missing =>
        cases h
        exact expect_suits missing fun _ => trivial
      · split at h
        · next unclosed =>
          cases h
          exact expect_suits unclosed fun _ => trivial
        · cases h
  · cases h
    exact ⟨hn, takes⟩

theorem headD_kind {kind : TokenKind} (h : nextKind ts = kind) (hk : kind ≠ .endOfInput) :
    (ts.headD stop).kind = kind := by
  obtain ⟨t, rest, rfl, ht⟩ := exists_cons_of_nextKind h hk
  exact ht

theorem readNoValue_suits (h : readNoValue robot method stop ts = .error broken) : broken.fault.Suits words := by
  unfold readNoValue at h
  split at h
  · split at h
    · cases h
    · next number =>
      cases h
      exact .inr (headD_kind number (by simp))
    · cases h
      trivial
  · next sign =>
    cases h
    exact .inl (headD_kind sign (by simp))
  · cases h

theorem readHeader_suits (hn : name.kind = .method .repetir) (h : readHeader robot name stop ts = .error broken) :
    broken.fault.Suits words := by
  unfold readHeader at h
  split at h
  · split at h
    · next value =>
      cases h
      exact readValue_suits hn rfl value
    · split at h
      · next unopened =>
        cases h
        exact expect_suits unopened fun _ => trivial
      · cases h
  · cases h
    trivial
  · cases h
  · cases h
    exact ⟨hn, rfl⟩

theorem Complete.suits {sentence : Sentence} (h : Complete words sentence) : ∀ e ∈ sentence.events, e.Suits words := by
  cases h with
  | @declaration keyword name rest hk hn =>
    exact List.forall_mem_singleton.mpr ⟨hn, keyword, hk, ⟨[], rest, rfl⟩⟩
  | assignment head arity plain hs hn => exact List.forall_mem_singleton.mpr ⟨head.robot, by simpa using hn⟩
  | valueCall head arity plain value => exact List.forall_mem_singleton.mpr ⟨head.robot, by simpa using value.number⟩
  | bareCall head arity ho he => exact List.forall_mem_singleton.mpr ⟨head.robot, by simp⟩
  | emptyCall head arity ho hc => exact List.forall_mem_singleton.mpr ⟨head.robot, by simp⟩
  | header head value hb =>
    exact List.forall_mem_cons.mpr ⟨⟨head.robot, by simpa using value.number⟩,
      List.forall_mem_singleton.mpr ⟨by simp, hb⟩⟩

theorem findBlock_suits (ts : List Token) : ∀ brace ∈ (findBlock ts).1, brace ∈ ts ∧ brace.kind = .openBrace := by
  induction ts with
  | nil => simp [findBlock]
  | cons t ts ih =>
    simp only [findBlock]
    split
    · next opens => simpa using opens
    · split
      · simp
      · exact fun brace hb => ⟨List.mem_cons_of_mem t (ih brace hb).1, (ih brace hb).2⟩

theorem readRepeat_suits (head : CallHead robot dot name .repetir) :
    ∀ e ∈ (readRepeat robot name stop ts).events, e.Suits (robot :: dot :: name :: ts) := by
  unfold readRepeat
  split
  · next sentence header =>
    rcases readHeader_ok header with
      ⟨opening, count, closing, brace, rest, rfl, value, hb, rfl⟩ | ⟨brace, rest, rfl, hb, rfl⟩
    · exact (Complete.header head value hb).suits
    · exact List.forall_mem_cons.mpr ⟨⟨head.name, rfl⟩, List.forall_mem_singleton.mpr ⟨by simp, hb⟩⟩
  · next broken header =>
    refine List.forall_mem_cons.mpr ⟨readHeader_suits head.name header, List.forall_mem_map.mpr fun brace hb => ?_⟩
    have left : broken.rest <:+ robot :: dot :: name :: ts :=
      ((readHeader_keepsEnd robot name stop ts).error header).trans ⟨[robot, dot, name], rfl⟩
    have opens := findBlock_suits broken.rest brace (Option.mem_toList.mp hb)
    exact ⟨left.subset opens.1, opens.2⟩

theorem readCall_suits (h : readCall robot stop ts = .error broken) : broken.fault.Suits (robot :: ts) := by
  unfold readCall at h
  split at h
  · next missing =>
    cases h
    exact expect_suits missing fun _ => trivial
  · next dot behind point =>
    obtain ⟨rfl, hd⟩ := expect_ok point
    dsimp only at h
    split at h
    · cases h
    · next method plain here =>
      split at h
      · next takes =>
        split at h
        · next value =>
          cases h
          exact readValue_suits (headD_kind here (by simp)) takes value
        · cases h
      · split at h
        · next value =>
          cases h
          exact readNoValue_suits value
        · cases h
    · next here =>
      obtain ⟨name, rest, rfl, hn⟩ := exists_cons_of_nextKind here (by simp)
      cases h
      exact ⟨hn, dot, hd, ⟨[robot], rest, rfl⟩⟩
    · cases h
      trivial

theorem readStatement_suits (stop first : Token) (ts : List Token) :
    ∀ e ∈ (readStatement stop first ts).events, e.Suits (first :: ts) := by
  unfold readStatement
  split
  · next sentence hs =>
    rcases readStatement?_ok hs with complete | ⟨dot, name, rest, cause, recovery, rfl, head, -, -⟩
    · exact complete.suits
    · obtain rfl : readRepeat first name stop rest = sentence :=
        Except.ok.inj ((readStatement?_head head).symm.trans hs)
      exact readRepeat_suits head
  · next broken hs =>
    refine List.forall_mem_singleton.mpr ?_
    unfold readStatement? at hs
    split at hs
    · split at hs
      · next missing =>
        cases hs
        exact expect_suits missing fun _ => trivial
      · cases hs
    · exact readCall_suits hs
    · cases hs
      trivial

end Readers

theorem Reads.opened {ts : List Token} {sentence : Sentence} (h : Reads ts sentence) :
    ∀ brace ∈ sentence.block, Event.opened brace ∈ sentence.events := by
  cases h with
  | complete complete => cases complete <;> simp
  | brokenHeader head hc incomplete =>
    intro brace hb
    exact List.mem_cons_of_mem _ (List.mem_map_of_mem (Option.mem_toList.mpr hb))
  | broken hc incomplete headless => simp

section Blocks
variable {stop : Token} {blocks ts words : List Token}

theorem readBlocks_suits (hs : stop.kind = .endOfInput)
    (opened : ∀ brace ∈ blocks, brace ∈ words ∧ brace.kind = .openBrace) (part : ts <:+ words) :
    ∀ e ∈ readBlocks stop blocks ts, e.Suits words := by
  fun_induction readBlocks stop blocks ts with
  | case1 blocks =>
    exact List.forall_mem_map.mpr fun brace hb => ⟨(opened brace hb).1, (opened brace hb).2, hs⟩
  | case2 t ts hc ih =>
    exact List.forall_mem_cons.mpr ⟨hc, ih opened ((List.suffix_cons t ts).trans part)⟩
  | case3 t ts hc brace outer ih =>
    obtain ⟨-, outer⟩ := List.forall_mem_cons.mp opened
    exact List.forall_mem_cons.mpr ⟨hc, ih outer ((List.suffix_cons t ts).trans part)⟩
  | case4 blocks t ts hc sentence ih =>
    have own : ∀ e ∈ sentence.events, e.Suits words := fun e he =>
      (readStatement_suits stop t ts e he).mono part.isInfix
    have left : sentence.rest <:+ words :=
      ((readStatement_isSuffix stop t ts).trans (List.suffix_cons t ts)).trans part
    have reads : Reads (t :: ts) sentence := reads_readStatement stop t ts
    refine List.forall_mem_append.mpr ⟨own, ih (List.forall_mem_append.mpr ⟨fun brace hb => ?_, opened⟩) left⟩
    exact own _ (reads.opened brace (Option.mem_toList.mp hb))

theorem mem_places_readBlocks (stop : Token) (blocks ts : List Token) :
    ∀ place ∈ (readBlocks stop blocks ts).flatMap Event.places, place ∈ ts ++ [stop] := by
  fun_induction readBlocks stop blocks ts with
  | case1 blocks => simp [Event.places, Fault.place]
  | case2 t ts hc ih =>
    exact List.forall_mem_cons.mpr ⟨List.mem_cons_self, fun place hp => List.mem_cons_of_mem t (ih place hp)⟩
  | case3 t ts hc brace outer ih => exact fun place hp => List.mem_cons_of_mem t (ih place hp)
  | case4 blocks t ts hc sentence ih =>
    obtain ⟨read, split, here⟩ : sentence.PointsInto stop (t :: ts) := readStatement_pointsInto stop t ts
    have next : sentence.rest.headD stop ∈ sentence.rest ++ [stop] := by
      simpa using headD_append_mem sentence.rest [] stop
    have taken : (read ++ [sentence.rest.headD stop]) ⊆ read ++ (sentence.rest ++ [stop]) :=
      List.append_subset.mpr ⟨List.subset_append_left _ _,
        List.cons_subset.mpr ⟨List.mem_append_right read next, List.nil_subset _⟩⟩
    rw [List.flatMap_append, split, List.append_assoc]
    exact List.forall_mem_append.mpr ⟨fun place hp => taken (here.subset hp),
      fun place hp => List.mem_append_right read (ih place hp)⟩

end Blocks

theorem Script.kind_stop_ofTokens (tokens : List Token) : (Script.ofTokens tokens).stop.kind = .endOfInput := by
  unfold Script.ofTokens
  cases found : (significant tokens).find? fun t => t.kind == .endOfInput with
  | none => cases h : tokens.getLast? <;> simp [impliedStop, h]
  | some stop => simpa using List.find?_some found

/-- Every event of a list of words suits them, whatever words these are. -/
theorem Script.suits_ofTokens (tokens : List Token) :
    ∀ e ∈ (Script.ofTokens tokens).read, e.Suits (Script.ofTokens tokens).body :=
  readBlocks_suits (kind_stop_ofTokens tokens) (by simp) (List.suffix_refl _)

end ArmScript
