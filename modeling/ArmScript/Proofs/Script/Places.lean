import ArmScript.Proofs.Script.Sentence
import ArmScript.Proofs.Token.Order

set_option autoImplicit false

namespace ArmScript

def Event.places : Event → List Token
  | .declaration name => [name]
  | .call robot _ argument => robot :: argument.toList
  | .opened _ | .closed _ => []
  | .fault cause _ => [cause.place]

theorem Fault.position_diagnostic (cause : Fault) : cause.diagnostic.position = cause.place.position := by
  cases cause with
  | unexpected wanted found => cases wanted <;> rfl
  | _ => rfl

theorem headD_append_mem {α : Type} (as bs : List α) (d : α) : (as ++ bs).headD d ∈ as ++ [bs.headD d] := by
  cases as <;> simp

/-- Recovery passes over more words, and the fault still points at a word in front of those left or at the first of
them. -/
theorem BreaksOff.exists_place {taken ts rest : List Token} {stop : Token} {broken : Broken}
    (h : BreaksOff taken stop ts broken) (recovered : rest <:+ broken.rest) :
    ∃ read, ts = read ++ rest ∧ broken.fault.place ∈ taken ++ read ++ [rest.headD stop] := by
  obtain ⟨-, read, rfl, -, place⟩ := h
  obtain ⟨passed, hp⟩ := recovered
  refine ⟨read ++ passed, by rw [List.append_assoc, hp], ?_⟩
  have next : broken.rest.headD stop ∈ passed ++ [rest.headD stop] := hp ▸ headD_append_mem passed rest stop
  rw [← List.append_assoc]
  rcases List.mem_append.mp place with before | same
  · exact List.mem_append_left _ (List.mem_append_left _ before)
  · rw [List.mem_singleton.mp same, List.append_assoc]
    exact List.mem_append_right _ next

/-- A sentence takes the words in front of those that it leaves. It points, from left to right, at words that it takes
or at the next one. -/
def Sentence.PointsInto (sentence : Sentence) (stop : Token) (ts : List Token) : Prop :=
  ∃ read, ts = read ++ sentence.rest ∧
    (sentence.events.flatMap Event.places).Sublist (read ++ [sentence.rest.headD stop])

section Sentence
variable {robot dot name stop first : Token} {ts : List Token} {sentence : Sentence}

theorem Complete.pointsInto (h : Complete ts sentence) (stop : Token) : sentence.PointsInto stop ts := by
  cases h with
  | @declaration keyword name rest hk hn => exact ⟨[keyword, name], rfl, by simp [Event.places]⟩
  | @assignment robot dot name sign number method rest head arity plain hs hn =>
    exact ⟨[robot, dot, name, sign, number], rfl, by simp [Event.places]⟩
  | @valueCall robot dot name opening number closing method rest head arity plain value =>
    exact ⟨[robot, dot, name, opening, number, closing], rfl, by simp [Event.places]⟩
  | @bareCall robot dot name method rest head arity ho he => exact ⟨[robot, dot, name], rfl, by simp [Event.places]⟩
  | @emptyCall robot dot name opening closing method rest head arity ho hc =>
    exact ⟨[robot, dot, name, opening, closing], rfl, by simp [Event.places]⟩
  | @header robot dot name opening number closing brace rest head value hb =>
    exact ⟨[robot, dot, name, opening, number, closing, brace], rfl, by simp [Event.places]⟩

theorem places_opened (block : Option Token) : (block.toList.map Event.opened).flatMap Event.places = [] := by
  cases block <;> rfl

theorem Sentence.pointsInto_of_fault {ts rest : List Token} {cause : Fault} {recovery : Option Recovery} {stop : Token}
    (taken : List Token) (block : Option Token)
    (h : ∃ read, ts = read ++ rest ∧ cause.place ∈ taken ++ read ++ [rest.headD stop]) :
    Sentence.PointsInto ⟨.fault cause recovery :: block.toList.map .opened, block, rest⟩ stop (taken ++ ts) := by
  obtain ⟨read, rfl, place⟩ := h
  refine ⟨taken ++ read, (List.append_assoc _ _ _).symm, ?_⟩
  rw [List.flatMap_cons, places_opened, List.append_nil]
  exact List.singleton_sublist.mpr place

theorem readRepeat_pointsInto (head : CallHead robot dot name .repetir) :
    (readRepeat robot name stop ts).PointsInto stop (robot :: dot :: name :: ts) := by
  have named : name ∈ [robot, dot, name] := by simp
  unfold readRepeat
  split
  · next sentence header =>
    rcases readHeader_ok header with
      ⟨opening, count, closing, brace, rest, rfl, value, hb, rfl⟩ | ⟨brace, rest, rfl, hb, rfl⟩
    · exact (Complete.header head value hb).pointsInto stop
    · exact Sentence.pointsInto_of_fault [robot, dot, name] (some brace) ⟨[brace], rfl, by simp [Fault.place]⟩
  · next broken header =>
    have breaks : BreaksOff [robot, dot, name] stop ts broken := readHeader_breaksOff named header
    exact Sentence.pointsInto_of_fault [robot, dot, name] _ (breaks.exists_place (findBlock_isSuffix broken.rest))

theorem readStatement_pointsInto (stop first : Token) (ts : List Token) :
    (readStatement stop first ts).PointsInto stop (first :: ts) := by
  unfold readStatement
  split
  · next sentence hs =>
    rcases readStatement?_ok hs with complete | ⟨dot, name, rest, cause, recovery, rfl, head, -, -⟩
    · exact complete.pointsInto stop
    · obtain rfl : readRepeat first name stop rest = sentence :=
        Except.ok.inj ((readStatement?_head head).symm.trans hs)
      exact readRepeat_pointsInto head
  · next broken hs =>
    have breaks := readStatement?_breaksOff hs
    exact Sentence.pointsInto_of_fault [first] none (breaks.exists_place (resume_isSuffix broken.rest))

end Sentence

section Order
variable {stop : Token} {ts rest later : List Token}

theorem headD_position_le (ordered : (ts ++ [stop]).Pairwise fun a b => a.position < b.position) :
    ∀ word ∈ ts ++ [stop], (ts.headD stop).position ≤ word.position := by
  cases ts with
  | nil => simp
  | cons t ts =>
    rw [List.cons_append, List.pairwise_cons] at ordered
    exact List.forall_mem_cons.mpr ⟨le_refl _, fun word hw => le_of_lt (ordered.1 word hw)⟩

theorem places_append (read places : List Token)
    (ordered : (read ++ (rest ++ [stop])).Pairwise fun a b => a.position < b.position)
    (here : places.Sublist (read ++ [rest.headD stop]))
    (behind : ∀ place ∈ later, (rest.headD stop).position ≤ place.position)
    (sorted : later.Pairwise fun a b => a.position ≤ b.position) :
    (∀ place ∈ places ++ later, ((read ++ rest).headD stop).position ≤ place.position) ∧
      (places ++ later).Pairwise fun a b => a.position ≤ b.position := by
  have next : rest.headD stop ∈ rest ++ [stop] := by simpa using headD_append_mem rest [] stop
  have shorter : (read ++ [rest.headD stop]).Sublist (read ++ (rest ++ [stop])) :=
    (List.Sublist.refl read).append (List.singleton_sublist.mpr next)
  have upTo : ∀ place ∈ places, place.position ≤ (rest.headD stop).position := by
    intro place hp
    rcases List.mem_append.mp (here.subset hp) with before | same
    · exact le_of_lt ((List.pairwise_append.mp ordered).2.2 place before _ next)
    · rw [List.mem_singleton.mp same]
  have start : ∀ word ∈ read ++ (rest ++ [stop]), ((read ++ rest).headD stop).position ≤ word.position := by
    rw [← List.append_assoc] at ordered ⊢
    exact headD_position_le ordered
  refine ⟨List.forall_mem_append.mpr ⟨fun place hp => ?_, fun place hp => ?_⟩,
    List.pairwise_append.mpr ⟨?_, sorted, ?_⟩⟩
  · exact start place (shorter.subset (here.subset hp))
  · exact le_trans (start _ (List.mem_append_right read next)) (behind place hp)
  · exact (ordered.sublist (here.trans shorter)).imp le_of_lt
  · exact fun place hp other ho => le_trans (upTo place hp) (behind other ho)

end Order

theorem places_readBlocks (stop : Token) (blocks ts : List Token)
    (ordered : (ts ++ [stop]).Pairwise fun a b => a.position < b.position) :
    (∀ place ∈ (readBlocks stop blocks ts).flatMap Event.places, (ts.headD stop).position ≤ place.position) ∧
      ((readBlocks stop blocks ts).flatMap Event.places).Pairwise fun a b => a.position ≤ b.position := by
  fun_induction readBlocks stop blocks ts with
  | case1 blocks =>
    have all : ∀ place ∈ (blocks.map fun brace => Event.fault (.unclosedBlock brace stop) none).flatMap Event.places,
        place = stop := by simp [Event.places, Fault.place]
    refine ⟨fun place hp => by rw [all place hp]; exact le_refl _, List.pairwise_of_forall_mem_list fun a ha b hb => ?_⟩
    rw [all a ha, all b hb]
  | case2 t ts hc ih =>
    obtain ⟨behind, sorted⟩ := ih ordered.tail
    exact places_append [t] [t] ordered (by simp) behind sorted
  | case3 t ts hc brace outer ih =>
    obtain ⟨behind, sorted⟩ := ih ordered.tail
    exact places_append [t] [] ordered (List.nil_sublist _) behind sorted
  | case4 blocks t ts hc sentence ih =>
    obtain ⟨read, split, here⟩ : sentence.PointsInto stop (t :: ts) := readStatement_pointsInto stop t ts
    rw [split, List.append_assoc] at ordered
    obtain ⟨behind, sorted⟩ := ih (List.pairwise_append.mp ordered).2.1
    rw [List.flatMap_append, split]
    exact places_append read _ ordered here behind sorted

end ArmScript
