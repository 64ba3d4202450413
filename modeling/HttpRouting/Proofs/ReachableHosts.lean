import HttpRouting.Proofs.HostDispatch

/-! # Hosts that reach a pattern

A pattern is read as it stands, while a port and what is behind a bracket are cut off a host before its labels are
compared. So the name of a host is either plain, without a colon and without a bracket at its beginning, or in
brackets, with the first closing one at its end; and a pattern is reached by some host just when its literal
labels can be those of such a name. A pattern that is not, such as one with a port, is registered for no host.
-/

namespace HttpRouting

open Text

/-! ## Names of hosts -/

/-- Whether a name has no colon and does not begin with a bracket. -/
def PlainHost (name : String) : Prop :=
  ':' ∉ name.toList ∧ name.toList.head? ≠ some '['

/-- Whether a name begins with a bracket and ends with the first closing one. -/
def BracketedHost (name : String) : Prop :=
  name.toList.head? = some '[' ∧ StopsAt ']' name.toList

private theorem plainHost_lower_iff {text : String} : PlainHost (lower text) ↔ PlainHost text := by
  rw [PlainHost, PlainHost, mem_lower_iff (by decide), Ne, head?_lower_iff (by decide)]

theorem bracketedHost_lower_iff {text : String} : BracketedHost (lower text) ↔ BracketedHost text := by
  rw [BracketedHost, BracketedHost, head?_lower_iff (by decide), stopsAt_lower_iff (by decide)]

theorem BracketedHost.getLast? {name : String} (bracketed : BracketedHost name) :
    name.toList.getLast? = some ']' := by
  obtain ⟨_, front, _, split⟩ := bracketed
  simp [split]

/-- A closed name in brackets, from a text with a bracket at its beginning. -/
theorem bracketedHost_before {host : String} (opens : host.toList.head? = some '[') :
    BracketedHost (before ']' host ++ "]") := by
  obtain ⟨later, split⟩ := List.head?_eq_some_iff.mp opens
  refine ⟨?_, (before ']' host).toList, ?_, ?_⟩
  · simp [toList_before, split]
  · rw [toList_before]
    intro member
    simpa using List.mem_takeWhile_imp member
  · simp

private theorem dropOneTrailing_of_getLast? {last : Char} {text : String} (differs : text.toList.getLast? ≠ some last) :
    dropOneTrailing last text = text :=
  if_neg differs

private theorem hostName_of_opens {host : String} (opens : host.toList.head? = some '[') :
    hostName host = if ']' ∈ host.toList then lower (before ']' host ++ "]") else "" := by
  obtain ⟨later, split⟩ := List.head?_eq_some_iff.mp opens
  have closed := bracketedHost_lower_iff.mpr (bracketedHost_before opens)
  rw [hostName]
  simp only [split, List.contains_iff_mem]
  split_ifs
  · exact dropOneTrailing_of_getLast? (by simp [closed.getLast?])
  · decide +kernel

private theorem hostName_of_not_opens {host : String} (bare : host.toList.head? ≠ some '[') :
    hostName host = dropOneTrailing '.' (lower (before ':' host)) := by
  rw [hostName]
  split
  · rename_i later split
    simp [split] at bare
  · rfl

private theorem plainHost_before {host : String} (bare : host.toList.head? ≠ some '[') :
    PlainHost (before ':' host) := by
  rw [PlainHost, toList_before]
  refine ⟨fun member => by simpa using List.mem_takeWhile_imp member, ?_⟩
  rw [List.head?_takeWhile]
  simpa using bare

theorem PlainHost.dropOneTrailing {name : String} (plain : PlainHost name) (last : Char) :
    PlainHost (dropOneTrailing last name) := by
  rw [Text.dropOneTrailing]
  split_ifs
  · rw [PlainHost, String.toList_ofList]
    refine ⟨fun member => plain.1 (List.dropLast_subset _ member), ?_⟩
    rw [List.head?_dropLast]
    split_ifs
    · exact plain.2
    · simp
  · exact plain

/-- The name of a host is plain or in brackets. -/
theorem plainHost_or_bracketedHost (host : String) :
    PlainHost (hostName host) ∨ BracketedHost (hostName host) := by
  by_cases opens : host.toList.head? = some '['
  · rw [hostName_of_opens opens]
    split_ifs
    · exact .inr (bracketedHost_lower_iff.mpr (bracketedHost_before opens))
    · exact .inl (by simp [PlainHost])
  · rw [hostName_of_not_opens opens]
    exact .inl ((plainHost_lower_iff.mpr (plainHost_before opens)).dropOneTrailing '.')

/-- A text of either kind is its own name in lower case, unless it ends with a dot. -/
theorem hostName_eq_lower {host : String} (shape : PlainHost host ∨ BracketedHost host)
    (undotted : (lower host).toList.getLast? ≠ some '.') : hostName host = lower host := by
  obtain ⟨portless, bare⟩ | ⟨opens, stops⟩ := shape
  · rw [hostName_of_not_opens bare, before_of_not_mem portless, dropOneTrailing_of_getLast? undotted]
  · rw [hostName_of_opens opens, if_pos stops.mem]
    exact congrArg lower (before_append_of_stopsAt stops)

/-! ## Names made of labels -/

variable {labels : List String} {first : String}

theorem hostLabels_ne_nil (name : String) : hostLabels name ≠ [] := by
  simp [hostLabels, cut_ne_nil]

private theorem hostLabels_join (some : labels ≠ []) (undotted : ∀ label ∈ labels, '.' ∉ label.toList) :
    hostLabels (join "." labels.reverse) = labels := by
  rw [hostLabels, List.reverse_eq_iff]
  exact cut_join (by simpa using some) (by simpa using undotted)

/-- A name begins as the last of its labels from the right does. -/
theorem head?_join_reverse_iff {last : String} (ends : labels.getLast? = some last) {stop : Char}
    (differs : stop ≠ '.') :
    (join "." labels.reverse).toList.head? = some stop ↔ last.toList.head? = some stop := by
  obtain ⟨others, split⟩ := List.head?_eq_some_iff.mp (List.head?_reverse.trans ends)
  have begins := @head?_join_cons_iff '.' stop last others differs
  rw [split]
  exact begins

private theorem stopsAt_join_append {texts : List String} {last : String} :
    StopsAt ']' (join "." (texts ++ [last])).toList ↔
      (∀ text ∈ texts, ']' ∉ text.toList) ∧ StopsAt ']' last.toList := by
  induction texts with
  | nil => simp [join]
  | cons text texts ih =>
    have glued : (text ++ "." ++ join "." (texts ++ [last])).toList =
        text.toList ++ '.' :: (join "." (texts ++ [last])).toList := by simp
    rw [List.cons_append, join_cons (by simp), glued, stopsAt_append (by simp), stopsAt_cons_iff (by decide), ih,
      List.forall_mem_cons, and_assoc]

private theorem plainHost_join_iff (some : labels ≠ []) :
    PlainHost (join "." labels.reverse) ↔
      (∀ label ∈ labels, ':' ∉ label.toList) ∧ ∀ label ∈ labels.getLast?, label.toList.head? ≠ .some '[' := by
  have ends := List.getLast?_eq_some_getLast some
  have portless : ':' ∈ (join "." labels.reverse).toList ↔ ∃ label ∈ labels.reverse, ':' ∈ label.toList :=
    @mem_join_iff '.' ':' labels.reverse (by decide)
  rw [PlainHost, portless, Ne, head?_join_reverse_iff ends (by decide), ends]
  simp

private theorem bracketedHost_join_iff :
    BracketedHost (join "." (first :: labels).reverse) ↔
      (∀ label ∈ (first :: labels).getLast?, label.toList.head? = some '[') ∧
        StopsAt ']' first.toList ∧ ∀ label ∈ labels, ']' ∉ label.toList := by
  have ends := List.getLast?_eq_some_getLast (List.cons_ne_nil first labels)
  rw [BracketedHost, head?_join_reverse_iff ends (by decide), List.reverse_cons, stopsAt_join_append, ends]
  simp [and_comm]

/-! ## Patterns for such names -/

/-- The text of a label, with another one in the place of a wildcard. -/
def HostLabel.filled (wild : String) : HostLabel → String
  | .literal text => text
  | .any => wild
  | .rest => wild

/-- What is so for the text in the place of a wildcard and for that of a literal label. -/
theorem HostLabel.filled_of (holds : String → Prop) {wild : String} {label : HostLabel} (wildcard : holds wild)
    (literal : ∀ text, label = .literal text → holds text) : holds (label.filled wild) := by
  cases label with
  | literal text => exact literal text rfl
  | any => exact wildcard
  | rest => exact wildcard

namespace HostPattern

variable {pattern : HostPattern}

/-- Whether the literal labels of a pattern can be those of a plain name. -/
structure Plain (pattern : HostPattern) : Prop where
  portless : ∀ text, .literal text ∈ pattern → ':' ∉ text.toList
  bare : ∀ text, .literal text ∈ pattern.getLast? → text.toList.head? ≠ some '['

/-- Whether the literal labels of a pattern can be those of a name in brackets. -/
structure Bracketed (pattern : HostPattern) : Prop where
  opens : ∀ text, .literal text ∈ pattern.getLast? → text.toList.head? = some '['
  closes : ∀ text, .literal text ∈ pattern.head? → StopsAt ']' text.toList
  between : ∀ text, .literal text ∈ pattern.tail → ']' ∉ text.toList

def Literal (pattern : HostPattern) : Prop :=
  ∀ label ∈ pattern, ∃ text, label = .literal text

/-- Whether a pattern that is registered alone answers for a host. -/
def AnswersFor (pattern : HostPattern) (host : String) : Prop :=
  hostName host = "" ∧ pattern = [.rest] ∨ hostName host ≠ "" ∧ pattern.Matches (hostLabels (hostName host))

theorem Matches.mem {text : String} (matched : pattern.Matches labels) (literal : .literal text ∈ pattern) :
    text ∈ labels := by
  induction matched with
  | nil => simp at literal
  | literal _ ih =>
    obtain same | behind := List.mem_cons.mp literal
    · rw [HostLabel.literal.inj same]
      exact List.mem_cons_self ..
    · exact List.mem_cons_of_mem _ (ih behind)
  | any _ ih => exact List.mem_cons_of_mem _ (ih (by simpa using literal))
  | rest => simp at literal

theorem Matches.mem_tail {text : String} (matched : pattern.Matches labels) (literal : .literal text ∈ pattern.tail) :
    text ∈ labels.tail := by
  cases matched with
  | nil => simp at literal
  | literal matched => exact matched.mem literal
  | any matched => exact matched.mem literal
  | rest => simp at literal

theorem Matches.mem_head? {text : String} (matched : pattern.Matches labels)
    (literal : .literal text ∈ pattern.head?) : text ∈ labels.head? := by
  cases matched with
  | nil => simp at literal
  | literal => simpa using literal
  | any => simp at literal
  | rest => simp at literal

theorem Matches.getLast?_cons (matched : pattern.Matches labels) (label : HostLabel) (text : String) :
    pattern = [] ∧ labels = [] ∨
      (label :: pattern).getLast? = pattern.getLast? ∧ (text :: labels).getLast? = labels.getLast? := by
  cases matched with
  | nil => exact .inl ⟨rfl, rfl⟩
  | literal => exact .inr ⟨List.getLast?_cons_cons, List.getLast?_cons_cons⟩
  | any => exact .inr ⟨List.getLast?_cons_cons, List.getLast?_cons_cons⟩
  | rest => exact .inr ⟨List.getLast?_cons_cons, List.getLast?_cons_cons⟩

theorem Matches.mem_getLast? {text : String} (matched : pattern.Matches labels)
    (literal : .literal text ∈ pattern.getLast?) : text ∈ labels.getLast? := by
  induction matched with
  | nil => simp at literal
  | @literal label _ _ matched ih =>
    obtain ⟨rfl, rfl⟩ | ⟨ahead, behind⟩ := matched.getLast?_cons (.literal label) label
    · simpa using literal
    · rw [ahead] at literal
      rw [behind]
      exact ih literal
  | @any label _ _ matched ih =>
    obtain ⟨rfl, rfl⟩ | ⟨ahead, behind⟩ := matched.getLast?_cons .any label
    · simp at literal
    · rw [ahead] at literal
      rw [behind]
      exact ih literal
  | rest => simp at literal

private theorem plain_of_matches {name : String} (matched : pattern.Matches (hostLabels name))
    (plain : PlainHost name) : pattern.Plain := by
  rw [← join_hostLabels name, plainHost_join_iff (hostLabels_ne_nil name)] at plain
  exact ⟨fun text literal => plain.1 text (matched.mem literal),
    fun text literal => plain.2 text (matched.mem_getLast? literal)⟩

private theorem bracketed_of_matches {name : String} (matched : pattern.Matches (hostLabels name))
    (bracketed : BracketedHost name) : pattern.Bracketed := by
  obtain ⟨first, labels, split⟩ := List.exists_cons_of_ne_nil (hostLabels_ne_nil name)
  rw [← join_hostLabels name, split, bracketedHost_join_iff] at bracketed
  rw [split] at matched
  obtain ⟨opens, closes, between⟩ := bracketed
  refine ⟨fun text literal => opens text (matched.mem_getLast? literal), fun text literal => ?_,
    fun text literal => between text (matched.mem_tail literal)⟩
  obtain rfl : first = text := by simpa using matched.mem_head? literal
  exact closes

/-- A pattern that answers for some host can be read off a plain name or off one in brackets. -/
theorem plain_or_bracketed {host : String} (answers : pattern.AnswersFor host) :
    pattern.Plain ∨ pattern.Bracketed := by
  obtain ⟨_, rfl⟩ | ⟨_, matched⟩ := answers
  · exact .inl ⟨by simp, by simp⟩
  · exact (plainHost_or_bracketedHost host).imp (plain_of_matches matched) (bracketed_of_matches matched)

/-- A literal label stands for its own text and any other label for every text, also the last one. -/
theorem matches_of_forall₂ (leftmost : .rest ∉ pattern.dropLast)
    (fits : List.Forall₂ (fun label text => ∀ own, label = .literal own → own = text) pattern labels) :
    pattern.Matches labels := by
  induction fits with
  | nil => exact .nil
  | @cons label text ahead labels fits later ih =>
    cases label with
    | literal own =>
      rw [fits own rfl]
      exact .literal (ih (mt (rest_mem_dropLast_cons (by simp)).mpr leftmost))
    | any => exact .any (ih (mt (rest_mem_dropLast_cons (by simp)).mpr leftmost))
    | rest =>
      cases later with
      | nil => exact .rest
      | cons => simp at leftmost

theorem read_eq_literal {text own : String} (literal : HostLabel.read text = .literal own) : own = text := by
  rw [HostLabel.read] at literal
  split_ifs at literal
  exact (HostLabel.literal.inj literal).symm

/-- A pattern matches its own labels. -/
theorem matches_texts {text : String} (leftmost : "*" ∉ (texts text).dropLast) :
    (ofText text).Matches (texts text) := by
  refine matches_of_forall₂ (rest_mem_dropLast_ofText.not.mpr leftmost) ?_
  rw [ofText, List.forall₂_map_left_iff, List.forall₂_same]
  exact fun text _ own => read_eq_literal

private theorem read_wild_or_literal (text : String) :
    (text = "*" ∨ text = "+") ∨ HostLabel.read text = .literal text := by
  rw [HostLabel.read]
  split_ifs with star plus
  · exact .inl (.inl star)
  · exact .inl (.inr plus)
  · exact .inr rfl

theorem texts_ne_nil (text : String) : texts text ≠ [] :=
  hostLabels_ne_nil (lower text)

theorem join_texts (text : String) : join "." (texts text).reverse = lower text :=
  join_hostLabels (lower text)

/-- The text of a plain pattern is itself the plain name of a host. -/
theorem Plain.plainHost {text : String} (plain : (ofText text).Plain) : PlainHost text := by
  rw [← plainHost_lower_iff, ← join_texts, plainHost_join_iff (texts_ne_nil text)]
  constructor
  · intro label member
    obtain (rfl | rfl) | literal := read_wild_or_literal label
    · decide
    · decide
    · exact plain.portless label (literal ▸ List.mem_map_of_mem member)
  · intro label last
    obtain (rfl | rfl) | literal := read_wild_or_literal label
    · decide
    · decide
    · refine plain.bare label ?_
      rw [ofText, List.getLast?_map, ← literal]
      exact Option.mem_map_of_mem _ last

/-- The labels of a name for a pattern in brackets, with the brackets in the place of the outer wildcards. -/
def filled : HostPattern → List String
  | [] => []
  | [label] => [label.filled "[]"]
  | label :: next :: ahead => label.filled "]" :: (next :: ahead).map (HostLabel.filled "[")

private theorem filled_ne_nil (some : pattern ≠ []) : pattern.filled ≠ [] := by
  fun_cases filled pattern <;> simp_all

private theorem filled_mem_or_eq {label : HostLabel} (member : label ∈ pattern) (wild : String) :
    .literal (label.filled wild) ∈ pattern ∨ label.filled wild = wild := by
  refine HostLabel.filled_of (fun text => .literal text ∈ pattern ∨ text = wild) (.inr rfl) ?_
  exact fun text literal => .inl (literal ▸ member)

/-- A label that is filled in is a literal one or made of brackets. -/
theorem mem_filled {text : String} (member : text ∈ pattern.filled) :
    .literal text ∈ pattern ∨ text ∈ ["[]", "]", "["] := by
  fun_cases filled pattern with
  | case1 => simp [filled] at member
  | case2 label =>
    rw [List.mem_singleton.mp member]
    exact (filled_mem_or_eq (List.mem_singleton_self label) "[]").imp_right fun wild => by simp [wild]
  | case3 label next ahead =>
    obtain rfl | member := List.mem_cons.mp member
    · exact (filled_mem_or_eq (List.mem_cons_self ..) "]").imp_right fun wild => by simp [wild]
    · obtain ⟨inner, innerMem, rfl⟩ := List.mem_map.mp member
      exact (filled_mem_or_eq (List.mem_cons_of_mem _ innerMem) "[").imp_right fun wild => by simp [wild]

private theorem forall₂_filled (pattern : HostPattern) :
    List.Forall₂ (fun label text => ∀ own, label = .literal own → own = text) pattern pattern.filled := by
  have fits (wild : String) (label : HostLabel) (own : String) (literal : label = .literal own) :
      own = label.filled wild := by
    rw [literal]
    rfl
  fun_cases filled pattern with
  | case1 => exact .nil
  | case2 label => exact .cons (fits _ label) .nil
  | case3 label next ahead =>
    refine .cons (fits _ label) ?_
    rw [List.forall₂_map_right_iff, List.forall₂_same]
    exact fun label _ => fits _ label

private theorem filled_map_read {labels : List String}
    (literal : ∀ label ∈ labels, HostLabel.read label = .literal label) :
    filled (labels.map HostLabel.read) = labels := by
  have spelled : labels.map HostLabel.read = labels.map .literal := List.map_congr_left literal
  rw [spelled]
  rcases labels with _ | ⟨first, _ | ⟨second, labels⟩⟩
  · rfl
  · rfl
  · simp [filled, HostLabel.filled, Function.comp_def]

theorem Bracketed.bracketedHost_filled (bracketed : pattern.Bracketed) (some : pattern ≠ []) :
    BracketedHost (join "." pattern.filled.reverse) := by
  obtain ⟨opens, closes, between⟩ := bracketed
  fun_cases filled pattern with
  | case1 => contradiction
  | case2 label =>
    rw [bracketedHost_join_iff]
    refine ⟨fun text last => ?_, ?_, by simp⟩
    · obtain rfl : label.filled "[]" = text := by simpa using last
      exact HostLabel.filled_of (·.toList.head? = .some '[') rfl fun text literal => opens text (literal ▸ rfl)
    · refine HostLabel.filled_of (StopsAt ']' ·.toList) ⟨['['], by decide, rfl⟩ ?_
      exact fun text literal => closes text (literal ▸ rfl)
  | case3 label next ahead =>
    rw [bracketedHost_join_iff, List.map_cons, List.getLast?_cons_cons, ← List.map_cons, List.getLast?_map]
    refine ⟨fun text last => ?_, ?_, fun text member => ?_⟩
    · obtain ⟨inner, innerLast, rfl⟩ := Option.map_eq_some_iff.mp last
      refine HostLabel.filled_of (·.toList.head? = .some '[') rfl fun text literal => opens text ?_
      rw [List.getLast?_cons_cons, ← literal]
      exact innerLast
    · refine HostLabel.filled_of (StopsAt ']' ·.toList) ⟨[], by decide, rfl⟩ ?_
      exact fun text literal => closes text (literal ▸ rfl)
    · obtain ⟨inner, innerMem, rfl⟩ := List.mem_map.mp member
      exact HostLabel.filled_of (']' ∉ ·.toList) (by decide) fun text literal => between text (literal ▸ innerMem)

/-- The text of a pattern of literal labels in brackets is itself the name of a host. -/
theorem Bracketed.bracketedHost {text : String} (bracketed : (ofText text).Bracketed)
    (literal : (ofText text).Literal) : BracketedHost text := by
  have spelled : ∀ label ∈ texts text, HostLabel.read label = .literal label := by
    intro label member
    obtain ⟨own, read⟩ := literal (HostLabel.read label) (List.mem_map_of_mem member)
    rw [read, read_eq_literal read]
  have filled : (ofText text).filled = texts text := filled_map_read spelled
  have host := bracketed.bracketedHost_filled (by simp [ofText, texts_ne_nil])
  rwa [filled, join_texts, bracketedHost_lower_iff] at host

/-- The labels of a pattern have no dot, and lower case keeps what they are made of. -/
theorem mem_texts {text label : String} (member : label ∈ texts text) :
    ∀ char ∈ label.toList, char ≠ '.' ∧ Settled char := by
  obtain ⟨chars, charsMem, rfl⟩ := List.mem_map.mp (List.mem_reverse.mp member)
  intro char charMem
  rw [String.toList_ofList] at charMem
  obtain ⟨inside, differs⟩ := mem_of_mem_splitOn charsMem char charMem
  exact ⟨differs, settled_of_mem_lower inside⟩

private theorem settled_filled {text label : String} (member : label ∈ (ofText text).filled) :
    ∀ char ∈ label.toList, char ≠ '.' ∧ Settled char := by
  obtain literal | brackets := mem_filled member
  · obtain ⟨own, ownMem, read⟩ := List.mem_map.mp literal
    rw [read_eq_literal read]
    exact mem_texts ownMem
  · intro char charMem
    have sign : char = '[' ∨ char = ']' := by
      obtain rfl | rfl | rfl : label = "[]" ∨ label = "]" ∨ label = "[" := by simpa using brackets
      · simpa using charMem
      · exact .inr (by simpa using charMem)
      · exact .inl (by simpa using charMem)
    obtain rfl | rfl := sign
    · exact ⟨by decide, lowerChar_of_sign (by decide)⟩
    · exact ⟨by decide, lowerChar_of_sign (by decide)⟩

/-- The name that is filled in for a pattern is the name of a host. -/
theorem lower_filled (text : String) :
    lower (join "." (ofText text).filled.reverse) = join "." (ofText text).filled.reverse := by
  refine lower_of_settled fun char member => ?_
  by_cases dot : char = '.'
  · rw [dot]
    exact lowerChar_of_sign (by decide)
  · obtain ⟨label, labelMem, charMem⟩ := (@mem_join_iff '.' char _ dot).mp member
    exact (settled_filled (List.mem_reverse.mp labelMem) char charMem).2

/-- A pattern in brackets answers for the name that is filled in for it. -/
theorem Bracketed.answersFor_filled {text : String} (bracketed : (ofText text).Bracketed)
    (leftmost : "*" ∉ (texts text).dropLast) : (ofText text).AnswersFor (join "." (ofText text).filled.reverse) := by
  have some : ofText text ≠ [] := by simp [ofText, texts_ne_nil]
  have host := bracketed.bracketedHost_filled some
  have named : hostName (join "." (ofText text).filled.reverse) = join "." (ofText text).filled.reverse := by
    rw [hostName_eq_lower (.inr host) (by simp [lower_filled, host.getLast?]), lower_filled]
  have labels : hostLabels (join "." (ofText text).filled.reverse) = (ofText text).filled :=
    hostLabels_join (filled_ne_nil some) fun label member inside => (settled_filled member '.' inside).1 rfl
  rw [AnswersFor, named, labels]
  refine .inr ⟨fun empty => ?_, ?_⟩
  · rw [empty] at host
    exact absurd host.getLast? (by decide)
  · exact matches_of_forall₂ (rest_mem_dropLast_ofText.not.mpr leftmost) (forall₂_filled _)

/-- A pattern whose text is the name of a host answers for that host. -/
theorem answersFor_self {text : String} (solid : "" ∉ texts text) (leftmost : "*" ∉ (texts text).dropLast)
    (shape : PlainHost text ∨ BracketedHost text) : (ofText text).AnswersFor text := by
  have undotted : (lower text).toList.getLast? ≠ some '.' := by
    have pieces : Solid '.' (texts text).reverse := by
      intro label member
      rw [List.mem_reverse] at member
      exact ⟨fun empty => solid (empty ▸ member), fun dot => (mem_texts member '.' dot).1 rfl⟩
    have ends : ∃ last, last ≠ '.' ∧ (join "." (texts text).reverse).toList.getLast? = some last :=
      getLast?_join (by simpa using texts_ne_nil text) pieces
    obtain ⟨last, differs, ends⟩ := ends
    rw [← join_texts, ends]
    simpa using differs
  rw [AnswersFor, hostName_eq_lower shape undotted]
  refine .inr ⟨fun empty => ?_, matches_texts leftmost⟩
  rw [texts, empty] at solid
  exact solid (by decide)

/-- A pattern that may be registered answers for some host just when its literal labels are those of a plain name or
of one in brackets. -/
theorem exists_answersFor_iff {text : String} (solid : "" ∉ texts text)
    (leftmost : "*" ∉ (texts text).dropLast) :
    (∃ host, (ofText text).AnswersFor host) ↔ (ofText text).Plain ∨ (ofText text).Bracketed := by
  constructor
  · rintro ⟨host, answers⟩
    exact plain_or_bracketed answers
  · rintro (plain | bracketed)
    · exact ⟨text, answersFor_self solid leftmost (.inl plain.plainHost)⟩
    · exact ⟨_, bracketed.answersFor_filled leftmost⟩

end HostPattern

namespace HostRouter

variable {ε : Type} {router : HostRouter ε} {text : String} {endpoint : ε}

private theorem exists_registered {before : HostRouter ε} (accepted : (before.register text endpoint).1.isOk = true) :
    ∃ after, before.register text endpoint = (.ok (), after) := by
  generalize before.register text endpoint = outcome at accepted ⊢
  obtain ⟨result, after⟩ := outcome
  obtain ⟨⟨⟩, rfl⟩ := isOk_iff_exists.mp accepted
  exact ⟨after, rfl⟩

/-- A router with one pattern resolves the hosts that this answers for. -/
theorem resolve?_of_registered (registered : ({} : HostRouter ε).register text endpoint = (.ok (), router))
    (host : String) : router.resolve? host = some endpoint ↔ (HostPattern.ofText text).AnswersFor host := by
  have reached : Reached router [(text, endpoint)] := .accepted .start registered
  by_cases missing : hostName host = ""
  · rw [reached.resolve?_of_missing missing]
    simpa [HostPattern.AnswersFor, missing, HostPattern.ofText_eq_rest_iff] using eq_comm
  · rw [resolve?, if_neg missing, reached.find?_eq_some_iff]
    constructor
    · rintro ⟨other, member, best⟩
      obtain rfl : other = text := by simpa using member
      exact .inr ⟨missing, best.matched⟩
    · rintro (⟨empty, _⟩ | ⟨_, matched⟩)
      · exact absurd empty missing
      · refine ⟨text, by simp, matched, ⟨_, List.mem_singleton_self _, rfl⟩, ?_⟩
        rintro other _ ⟨call, member, rfl⟩ differs
        rw [List.mem_singleton.mp member] at differs
        exact absurd rfl differs

/-- A pattern that is accepted on a fresh router is found by some host exactly when its literal labels can be those of
a plain name or of one in brackets; and one that is found by some host is found by its own text when it is plain or
has literal labels only. -/
theorem register_reachable (registered : ({} : HostRouter ε).register text endpoint = (.ok (), router)) :
    ((∃ host, router.resolve? host = some endpoint) ↔
      (HostPattern.ofText text).Plain ∨ (HostPattern.ofText text).Bracketed) ∧
    ((HostPattern.ofText text).Plain ∨ (HostPattern.ofText text).Literal →
      (∃ host, router.resolve? host = some endpoint) → router.resolve? text = some endpoint) := by
  obtain ⟨solid, leftmost, _⟩ := (isOk_register _ text endpoint).mp (by rw [registered]; rfl)
  simp only [resolve?_of_registered registered, HostPattern.exists_answersFor_iff solid leftmost]
  refine ⟨trivial, fun own shape => HostPattern.answersFor_self solid leftmost ?_⟩
  obtain plain | bracketed := shape
  · exact .inl plain.plainHost
  · obtain plain | literal := own
    · exact .inl plain.plainHost
    · exact .inr (bracketed.bracketedHost literal)

/-- An address in brackets is found by its own text, in spite of its colons. -/
theorem register_reachable_loopback :
    ∃ router : HostRouter Nat, ({} : HostRouter Nat).register "[::1]" 1 = (.ok (), router) ∧
      (HostPattern.ofText "[::1]").Literal ∧ (∃ host, router.resolve? host = some 1) ∧
      router.resolve? "[::1]" = some 1 := by
  have accepted : (({} : HostRouter Nat).register "[::1]" 1).1.isOk = true := by decide +kernel
  obtain ⟨router, registered⟩ := exists_registered accepted
  have labels : HostPattern.ofText "[::1]" = [.literal "[::1]"] := by decide +kernel
  have literal : (HostPattern.ofText "[::1]").Literal := by simp [labels, HostPattern.Literal]
  have bracketed : (HostPattern.ofText "[::1]").Bracketed := by
    rw [labels]
    refine ⟨?_, ?_, by simp⟩
    · rintro _ ⟨⟩
      decide
    · rintro _ ⟨⟩
      exact ⟨"[::1".toList, by decide, by decide⟩
  have found := (register_reachable registered).1.mpr (.inr bracketed)
  exact ⟨router, registered, literal, found, (register_reachable registered).2 (.inr literal) found⟩

/-- A pattern with a port is accepted, and no host is found by it. -/
theorem register_unreachable :
    ∃ router : HostRouter Nat, ({} : HostRouter Nat).register "example.com:8080" 1 = (.ok (), router) ∧
      ∀ host, router.resolve? host ≠ some 1 := by
  have accepted : (({} : HostRouter Nat).register "example.com:8080" 1).1.isOk = true := by decide +kernel
  obtain ⟨router, registered⟩ := exists_registered accepted
  refine ⟨router, registered, fun host found => ?_⟩
  have answers := (resolve?_of_registered registered host).mp found
  have labels : HostPattern.ofText "example.com:8080" = [.literal "com:8080", .literal "example"] := by decide +kernel
  rw [labels] at answers
  obtain plain | bracketed := HostPattern.plain_or_bracketed answers
  · exact plain.portless "com:8080" (by simp) (by decide)
  · exact absurd (bracketed.opens "example" rfl) (by decide)

end HostRouter
end HttpRouting
