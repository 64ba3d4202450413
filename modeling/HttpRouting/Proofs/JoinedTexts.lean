import HttpRouting.Proofs.JoinedPatterns

/-! # Joining is reading the joined text

However a pattern came about, by reading a text or by joining patterns that did, its own source is a text that
it is read from. So whatever is known of patterns that were read from a text is known of joined ones, and
joining can be explained by the text alone: it gives what the joined text is read as, or the same refusal of
that text. Of three patterns it does not matter which two are joined first.
-/

namespace HttpRouting

open Text

namespace Pattern

variable {head middle tail pattern : Pattern}

/-- Patterns as they come about: read from a text, or joined from two such patterns. -/
inductive Made : Pattern → Prop
  | read {text : String} {pattern : Pattern} (compiled : compile text = .ok pattern) : Made pattern
  | joined {head tail pattern : Pattern} (front : Made head) (back : Made tail)
      (joined : head.join tail = .ok pattern) : Made pattern

/-- A pattern is read from its own source as from the text that it was read from. -/
theorem compile_source_of_compile {text : String} (compiled : compile text = .ok pattern) :
    compile pattern.source = .ok pattern := by
  obtain ⟨_, source, reads⟩ := compile_eq_ok.mp compiled
  have rooted := rooted_of_compile compiled
  refine compile_eq_ok.mpr ⟨?_, (withLeadingSlash_of_rooted rooted).symm, ?_⟩
  · intro empty
    rw [empty] at rooted
    cases rooted
  · rw [source, pieces_withLeadingSlash]
    exact reads

/-- A pattern has come about exactly when it is what its source is read as. -/
theorem made_iff : pattern.Made ↔ compile pattern.source = .ok pattern := by
  constructor
  · intro made
    induction made with
    | read compiled => exact compile_source_of_compile compiled
    | joined _ _ joined ahead behind => exact compile_source_of_join ahead behind joined
  · exact .read

theorem Made.rooted (made : pattern.Made) : Rooted pattern.source :=
  rooted_of_compile (made_iff.mp made)

/-- Three patterns joined give one outcome whichever two are joined first: the same pattern, or none. -/
theorem toOption_join_join (first : head.Made) (second : middle.Made) (third : tail.Made) :
    (head.join middle >>= fun outer => outer.join tail).toOption =
      (middle.join tail >>= fun inner => head.join inner).toOption := by
  refine Option.ext fun pattern => ?_
  rw [toOption_eq_some, toOption_eq_some, bind_eq_ok, bind_eq_ok]
  exact (join_assoc first.rooted second.rooted third.rooted).symm

/-- Joining is compiling the joined text: it gives the pattern which that text is compiled to — with its source,
its segments and all that is read off them — or refuses it for the same reason; and of three patterns it
does not matter which two are joined first. -/
theorem join_reads_joined_text {front between back : String} (ahead : compile front = .ok head)
    (amid : compile between = .ok middle) (behind : compile back = .ok tail) :
    head.join middle = compile (joinSources head.source middle.source) ∧
      (head.join middle >>= fun outer => outer.join tail).toOption =
        (middle.join tail >>= fun inner => head.join inner).toOption :=
  ⟨join_eq_compile ahead amid, toOption_join_join (.read ahead) (.read amid) (.read behind)⟩

/-- A name that two of three patterns share refuses their joined text, and all three whichever two are joined
first. -/
theorem join_reads_joined_text_shared : ∃ head middle tail,
    compile "/users/:id//" = .ok head ∧ compile "posts/" = .ok middle ∧ compile "/:id/*rest" = .ok tail ∧
    head.join middle = compile "/users/:id/posts/" ∧
    head.join tail = .error ⟨"/users/:id/:id/*rest", .duplicateName "id"⟩ ∧
    (head.join middle >>= fun outer => outer.join tail).toOption = none ∧
    (middle.join tail >>= fun inner => head.join inner).toOption = none := by
  have known : ∃ head middle tail, compile "/users/:id//" = .ok head ∧ compile "posts/" = .ok middle ∧
      compile "/:id/*rest" = .ok tail ∧
      joinSources head.source middle.source = "/users/:id/posts/" ∧
      joinSources head.source tail.source = "/users/:id/:id/*rest" ∧
      (head.join middle >>= fun outer => outer.join tail).toOption = none :=
    ⟨_, _, _, rfl, rfl, rfl, rfl, rfl, rfl⟩
  obtain ⟨head, middle, tail, ahead, amid, behind, text, text', none⟩ := known
  have refused : compile "/users/:id/:id/*rest" = .error ⟨"/users/:id/:id/*rest", .duplicateName "id"⟩ := rfl
  obtain ⟨reads, same⟩ := join_reads_joined_text ahead amid behind
  obtain ⟨reads', _⟩ := join_reads_joined_text ahead behind amid
  rw [text] at reads
  rw [text', refused] at reads'
  exact ⟨head, middle, tail, ahead, amid, behind, reads, reads', none, same ▸ none⟩

end Pattern

end HttpRouting
