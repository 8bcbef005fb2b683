import FeedDesk.Proofs.Oracle.Reading

namespace FeedDesk
namespace Suggestion

open Json Json.Written

/-!
# Replies that wrap a suggestion

A reply holds a suggestion by itself, between other words, or in a fenced
block.  The texts of the suggestion are arbitrary, so they may hold fences,
braces and whole objects of their own, and a place that is tried early may
begin or end in the middle of the object.  Such a place never reads as a
suggestion: either it begins inside of a quoted text, or it lacks the closing
brace, or it brings the object in behind something else.  The part between the
outer braces is the object itself and is always reached.
-/

/-! ## Reading what is written -/

/-- The members in the order in which they are written. -/
def members (suggestion : Suggestion) : List (Text × Text) :=
  [("sql", suggestion.sql), ("explanation", suggestion.explanation),
    ("response_template", suggestion.responseTemplate)]

theorem members_ne_nil (suggestion : Suggestion) : suggestion.members ≠ [] :=
  List.cons_ne_nil _ _

/-- All that is written but the closing brace. -/
def unclosed (suggestion : Suggestion) : Text :=
  '\x7b' :: compactMembers (textMembers suggestion.members)

theorem written_eq (suggestion : Suggestion) : suggestion.written = suggestion.unclosed ++ ['\x7d'] := rfl

theorem written_append (suggestion : Suggestion) (rest : Text) :
    suggestion.written ++ rest = suggestion.unclosed ++ '\x7d' :: rest := by
  rw [written_eq, List.append_assoc, List.singleton_append]

theorem exists_unclosed_eq (suggestion : Suggestion) :
    ∃ back, suggestion.unclosed = '\x7b' :: '"' :: 's' :: back := ⟨_, rfl⟩

theorem ofWritten_readMembers (suggestion : Suggestion) :
    ofWritten (.object (readMembers suggestion.members)) = some suggestion := by
  have names : chars? ((show Text from "sql").map pieceOf) = some "sql" ∧
      chars? ((show Text from "explanation").map pieceOf) = some "explanation" ∧
      chars? ((show Text from "response_template").map pieceOf) = some "response_template" :=
    ⟨chars?_map_pieceOf _, chars?_map_pieceOf _, chars?_map_pieceOf _⟩
  have filled : slots? fields (.object (readMembers suggestion.members)) =
      some [.given (.string (suggestion.sql.map pieceOf)),
        .given (.string (suggestion.explanation.map pieceOf)),
        .given (.string (suggestion.responseTemplate.map pieceOf))] := by
    simp only [slots?, readMembers, members, List.map_cons, List.map_nil, placeMembers, names.1, names.2.1,
      names.2.2, Option.bind_eq_bind, Option.bind_some]
    rfl
  simp only [ofWritten, filled, Option.bind_eq_bind, Option.bind_some, Slot.required, Slot.defaulted, asText,
    chars?_map_pieceOf, Option.pure_def]

/-- The suggestion is read where blanks alone follow it. -/
theorem ofText?_written_append (suggestion : Suggestion) (rest : Text) :
    ofText? (suggestion.written ++ rest) = if (skipSpace rest).isEmpty then some suggestion else none := by
  have read := ofText?_compact_object suggestion.members_ne_nil rest
  change Written.ofText? (suggestion.written ++ rest) = _ at read
  rw [ofText?, read]
  split
  · exact ofWritten_readMembers suggestion
  · rfl

theorem ofText?_written (suggestion : Suggestion) : ofText? suggestion.written = some suggestion := by
  have read := suggestion.ofText?_written_append []
  rwa [List.append_nil] at read

theorem ofText?_of_prefix_unclosed {suggestion : Suggestion} {front : Text}
    (within : front <+: suggestion.unclosed) : ofText? front = none := by
  rw [ofText?, ofText?_of_prefix_object within]
  rfl

/-- A text that begins with neither bracket nor brace is no suggestion. -/
theorem ofText?_of_other_front {first : Char} {text : Text} (solid : isSpace first = false)
    (noBracket : first ≠ '[') (noBrace : first ≠ '\x7b') : ofText? (first :: text) = none := by
  cases read : ofText? (first :: text) with
  | none => rfl
  | some suggestion =>
      obtain ⟨opener, _, _, _, _, _, _, opens, mark, _⟩ := exists_front_of_ofText? read
      rw [skipSpace_cons _ solid] at opens
      obtain rfl := (List.cons.inj opens).1
      rcases mark with same | same
      · exact absurd same noBracket
      · exact absurd same noBrace

/-- The text is no suggestion, or it is the one that was meant. -/
def Harmless (suggestion : Suggestion) (place : Text) : Prop :=
  ofText? place = none ∨ ofText? place = some suggestion

/-! ## The whole reply and the part between the braces -/

variable {suggestion : Suggestion} {before after : Text}

theorem harmless_trim (suggestion : Suggestion) (after : Text) (noBrace : '\x7b' ∉ before) :
    suggestion.Harmless (before ++ (suggestion.written ++ after)).trim := by
  obtain ⟨back, opens⟩ := suggestion.exists_unclosed_eq
  have fromFront : (before ++ (suggestion.written ++ after)).dropWhile Text.isBlankChar =
      before.dropWhile Text.isBlankChar ++ (suggestion.written ++ after) := by
    rw [written_append, opens, List.cons_append, Text.dropWhile_append_cons _ rfl]
  have trimmed : (before ++ (suggestion.written ++ after)).trim =
      before.dropWhile Text.isBlankChar ++ (suggestion.written ++ after.trimEndBy Text.isBlankChar) := by
    change Text.trimEndBy Text.isBlankChar ((before ++ (suggestion.written ++ after)).dropWhile
      Text.isBlankChar) = _
    rw [fromFront, written_append, written_append, ← List.append_assoc, Text.trimEndBy_append_cons _ rfl,
      List.append_assoc]
  rw [trimmed, Harmless]
  cases solid : before.dropWhile Text.isBlankChar with
  | nil =>
      rw [List.nil_append, ofText?_written_append]
      split
      · exact Or.inr rfl
      · exact Or.inl rfl
  | cons first front =>
      left
      have free : '\x7b' ∉ first :: front := fun member =>
        noBrace (List.dropWhile_subset _ (solid ▸ member))
      have firstSolid : Text.isBlankChar first = false := by
        have head := List.head?_dropWhile_not Text.isBlankChar before
        rw [solid] at head
        simpa using head
      rw [written_append, opens]
      exact ofText?_of_brace_behind free (isSpace_eq_false_of_isBlankChar firstSolid) rfl (by decide) (by decide)

/-- The part between the outer braces, in a text where no braces stand around
it. -/
theorem braced?_eq {front inner back : Text} (opens : '\x7b' ∉ front) (closes : '\x7d' ∉ back) :
    braced? (front ++ '\x7b' :: (inner ++ '\x7d' :: back)) = some ('\x7b' :: (inner ++ ['\x7d'])) := by
  have fromBrace : (front ++ '\x7b' :: (inner ++ '\x7d' :: back)).dropWhile (· != '\x7b') =
      ('\x7b' :: inner) ++ '\x7d' :: back := by
    have passed : ∀ char ∈ front, (char != '\x7b') = true := fun char member =>
      bne_iff_ne.mpr fun same => opens (same ▸ member)
    rw [List.dropWhile_append_of_pos passed]
    rfl
  have toBrace : Text.trimEndBy (· != '\x7d') (('\x7b' :: inner) ++ '\x7d' :: back) =
      '\x7b' :: (inner ++ ['\x7d']) := by
    have passed : ∀ char ∈ back, (char != '\x7d') = true := fun char member =>
      bne_iff_ne.mpr fun same => closes (same ▸ member)
    rw [Text.trimEndBy_append_cons _ rfl, Text.trimEndBy_eq_nil passed, List.cons_append]
  rw [braced?, fromBrace, toBrace]
  rfl

/-- Between the outer braces stands what was written. -/
theorem braced?_eq_written (suggestion : Suggestion) (opens : '\x7b' ∉ before) (closes : '\x7d' ∉ after) :
    braced? (before ++ (suggestion.written ++ after)) = some suggestion.written := by
  rw [written_append]
  exact braced?_eq opens closes

/-! ## The first place that reads as a suggestion -/

/-- The tag that the fence of a block may carry. -/
def jsonTag : Text := ['j', 's', 'o', 'n']

theorem findSome?_of_harmless {places : List Text} (harmless : ∀ place ∈ places, suggestion.Harmless place)
    (listed : suggestion.written ∈ places) : places.findSome? ofText? = some suggestion := by
  induction places with
  | nil => cases listed
  | cons place others inductionHypothesis =>
      rw [List.findSome?_cons]
      rcases harmless place List.mem_cons_self with none | some
      · rw [none]
        rcases List.mem_cons.mp listed with rfl | deeper
        · rw [ofText?_written] at none
          cases none
        · exact inductionHypothesis (fun place member => harmless place (List.mem_cons_of_mem _ member)) deeper
      · rw [some]

/-- If no fenced block of the reply misleads, the suggestion is found. -/
theorem ofReply_of_harmless (query : suggestion.sql.isBlank = false) (opens : '\x7b' ∉ before)
    (closes : '\x7d' ∉ after)
    (tagged : ∀ block, block? (fence ++ jsonTag) (before ++ (suggestion.written ++ after)) = some block →
      suggestion.Harmless block)
    (plain : ∀ block, block? fence (before ++ (suggestion.written ++ after)) = some block →
      suggestion.Harmless block) :
    ofReply (before ++ (suggestion.written ++ after)) = .ok suggestion := by
  have between := suggestion.braced?_eq_written opens closes
  have found : (candidates (before ++ (suggestion.written ++ after))).findSome? ofText? = some suggestion := by
    refine findSome?_of_harmless (fun place member => ?_) ?_
    · simp only [candidates, List.mem_append, Option.mem_toList, List.mem_singleton] at member
      rcases member with ((block | block) | rfl) | part
      · exact tagged place block
      · exact plain place block
      · exact suggestion.harmless_trim after opens
      · rw [between] at part
        cases part
        exact Or.inr suggestion.ofText?_written
    · rw [candidates, between]
      exact List.mem_append_right _ List.mem_cons_self
  rw [ofReply, found]
  simp only [query, Bool.false_eq_true, if_false]

/-! ## Fences inside of the object -/

variable {mark rest z : Text}

/-- What stands behind a mark that begins in a quoted text or behind it.  The
mark holds no character that quoting writes of its own. -/
theorem rest_cases_of_quoted {text tail : Text} {sign : Char} (noQuote : '"' ∉ sign :: mark)
    (noBackslash : '\\' ∉ sign :: mark) (within : (sign :: mark) ++ rest <:+ escaped text ++ '"' :: tail) :
    (∃ inside, Guarded inside ∧ rest = inside ++ '"' :: tail) ∨ (sign :: mark) ++ rest <:+ tail := by
  rcases Text.suffix_append_cases within with behind | ⟨more, same, ending⟩
  · right
    refine Text.suffix_of_cons_suffix_append (show _ <:+ ['"'] ++ tail from behind) ?_
    rw [List.mem_singleton]
    exact fun same => noQuote (same ▸ List.mem_cons_self)
  · left
    rcases List.append_eq_append_iff.mp same with ⟨inside, rfl, behind⟩ | ⟨beyond, split, behind⟩
    · refine ⟨inside, ?_, behind⟩
      obtain ⟨lead, whole⟩ := ending
      obtain ⟨front, last, ends⟩ := List.eq_nil_or_concat (sign :: mark) |>.resolve_left (List.cons_ne_nil _ _)
      have guarded := guarded_escaped text
      rw [← whole, ends, List.concat_eq_append, List.append_assoc, ← List.append_assoc, List.singleton_append]
        at guarded
      refine guarded.right fun same => noBackslash ?_
      rw [ends, same, List.concat_eq_append]
      exact List.mem_append_right _ List.mem_cons_self
    · cases beyond with
      | nil =>
          refine ⟨[], fun _ _ impossible => ?_, behind.symm⟩
          exact absurd impossible (by simp)
      | cons char beyond =>
          obtain rfl := (List.cons.inj behind).1
          rw [split] at noQuote
          exact absurd (List.mem_append_right _ List.mem_cons_self) noQuote

/-- Behind the text of a member the name of the next one follows. -/
theorem misleads_member {letter : Char} (text : Text) (solid : isSpace letter = false) (noComma : letter ≠ ',')
    (noBracket : letter ≠ ']') (noColon : letter ≠ ':') : Misleads (',' :: '"' :: letter :: text) := by
  intro inner name rest next others within read follows
  rcases List.prefix_cons_iff.mp within with rfl | ⟨inner, rfl, behind⟩
  · cases read
  · rcases List.prefix_cons_iff.mp behind with rfl | ⟨inner, rfl, remains⟩
    · cases read
    · cases read
      rcases List.prefix_cons_iff.mp remains with rfl | ⟨inner, rfl, _⟩
      · cases follows
      · rw [skipSpace_cons _ solid] at follows
        obtain rfl := (List.cons.inj follows).1
        exact ⟨noComma, noBracket, noColon⟩

theorem misleads_closing : Misleads ['\x7d', '\n'] := by
  intro inner name rest next others within read
  rcases List.prefix_cons_iff.mp within with rfl | ⟨inner, rfl, behind⟩
  · cases read
  · rcases List.prefix_cons_iff.mp behind with rfl | ⟨inner, rfl, remains⟩
    · cases read
    · rw [List.prefix_nil.mp remains] at read
      cases read

/-- What stands behind a mark that begins in the object or behind it. -/
theorem rest_cases_of_written (noQuote : '"' ∉ '\x60' :: mark) (noBackslash : '\\' ∉ '\x60' :: mark)
    (within : ('\x60' :: mark) ++ rest <:+ suggestion.written ++ after) :
    (∃ inside behind, Guarded inside ∧ Misleads behind ∧ rest = inside ++ '"' :: behind) ∨
      (∃ inside, Guarded inside ∧ rest = inside ++ '"' :: '\x7d' :: after) ∨
      ('\x60' :: mark) ++ rest <:+ after := by
  have parts : suggestion.written ++ after =
      "\x7b\"sql\":\"" ++ (escaped suggestion.sql ++ '"' ::
        (",\"explanation\":\"" ++ (escaped suggestion.explanation ++ '"' ::
          (",\"response_template\":\"" ++ (escaped suggestion.responseTemplate ++ '"' ::
            '\x7d' :: after))))) := by
    rw [written_append, unclosed, members, compactMembers_cons, compactMembers_cons, compactMembers_singleton]
    simp only [quoted_append, List.cons_append, List.append_assoc, List.nil_append]
    rfl
  rw [parts] at within
  have first := Text.suffix_of_cons_suffix_append within (by decide)
  rcases rest_cases_of_quoted noQuote noBackslash first with ⟨inside, guarded, same⟩ | second
  · exact Or.inl ⟨inside, _, guarded, misleads_member _ rfl (by decide) (by decide) (by decide), same⟩
  · have second := Text.suffix_of_cons_suffix_append second (by decide)
    rcases rest_cases_of_quoted noQuote noBackslash second with ⟨inside, guarded, same⟩ | third
    · exact Or.inl ⟨inside, _, guarded, misleads_member _ rfl (by decide) (by decide) (by decide), same⟩
    · have third := Text.suffix_of_cons_suffix_append third (by decide)
      rcases rest_cases_of_quoted noQuote noBackslash third with ⟨inside, guarded, same⟩ | behind
      · exact Or.inr (Or.inl ⟨inside, guarded, same⟩)
      · refine Or.inr (Or.inr ?_)
        exact Text.suffix_of_cons_suffix_append (show _ <:+ ['\x7d'] ++ after from behind) (by decide)

/-! ## Fenced blocks -/

theorem exists_of_block? {opening reply block : Text} (found : block? opening reply = some block) :
    ∃ inner rest behind, opening ++ rest <:+ reply ∧ Text.cut? fence rest = some (inner, behind) ∧
      block = inner.trim := by
  obtain ⟨⟨front, rest⟩, opens, found⟩ := Option.bind_eq_some_iff.mp found
  obtain ⟨⟨inner, behind⟩, closes, same⟩ := Option.bind_eq_some_iff.mp found
  cases same
  refine ⟨inner, rest, behind, ⟨front, ?_⟩, closes, rfl⟩
  rw [Text.append_of_cut? opens, List.append_assoc]

/-- The first mark of a reply opens the block. -/
theorem block?_of_first (rest : Text) (free : '\x60' ∉ before) :
    block? ('\x60' :: mark) (before ++ (('\x60' :: mark) ++ rest)) =
      (Text.cut? fence rest).map fun (inner, _) => inner.trim := by
  rw [block?, Text.cut?_append_of_not_mem _ free, Text.cut?_append_self (List.cons_ne_nil _ _)]
  simp only [Option.map_some, Option.bind_eq_bind, Option.bind_some, Option.pure_def]
  cases Text.cut? fence rest <;> rfl

theorem ofText?_trim_of_stray {inside behind inner : Text} (guarded : Guarded inside)
    (misleads : Misleads behind)
    (within : inner <+: inside ++ '"' :: behind) : ofText? inner.trim = none :=
  ofText?_of_stray guarded misleads
    ((Text.trim_prefix_dropWhile inner).trans (Text.dropWhile_prefix_dropWhile _ within))

/-- Around the object stands no fence: every block begins inside of a quoted
text. -/
theorem ofText?_block_of_bare {block : Text} (noQuote : '"' ∉ '\x60' :: mark)
    (noBackslash : '\\' ∉ '\x60' :: mark) (freeBefore : '\x60' ∉ before) (freeAfter : '\x60' ∉ after)
    (found : block? ('\x60' :: mark) (before ++ (suggestion.written ++ after)) = some block) :
    ofText? block = none := by
  obtain ⟨inner, rest, behind, within, closes, rfl⟩ := exists_of_block? found
  have whole : rest = inner ++ (fence ++ behind) := by rw [Text.append_of_cut? closes, List.append_assoc]
  have inObject := Text.suffix_of_cons_suffix_append within freeBefore
  rcases rest_cases_of_written noQuote noBackslash inObject with
    ⟨inside, following, guarded, misleads, same⟩ | ⟨inside, guarded, same⟩ | outside
  · exact ofText?_trim_of_stray guarded misleads ⟨fence ++ behind, whole.symm.trans same⟩
  · -- The closing fence is one of the last text, for no other follows.
    rcases Text.prefix_append_cases ⟨fence ++ behind, whole.symm.trans same⟩ with short | ⟨more, long, _⟩
    · exact ofText?_trim_of_stray guarded misleads_nil (short.trans (List.prefix_append _ _))
    · rw [whole, long, List.append_assoc] at same
      have closing := List.append_cancel_left same
      have tick : '\x60' ∈ '"' :: '\x7d' :: after := by
        rw [← closing]
        exact List.mem_append_right more List.mem_cons_self
      rcases List.mem_cons.mp tick with impossible | tick
      · cases impossible
      · rcases List.mem_cons.mp tick with impossible | tick
        · cases impossible
        · exact absurd tick freeAfter
  · exact absurd (outside.subset List.mem_cons_self) freeAfter

/-- The fence around the object encloses it, or, if the object holds a fence,
a front of it. -/
theorem harmless_of_prefix_enclosed {inner : Text}
    (within : inner <+: '\n' :: (suggestion.written ++ ['\n'])) : suggestion.Harmless inner.trim := by
  have unread : ∀ front : Text, front <+: suggestion.unclosed →
      suggestion.Harmless (Text.trim ('\n' :: front)) := by
    intro front short
    have trimmed := Text.trim_prefix_dropWhile ('\n' :: front)
    obtain ⟨back, opens⟩ := suggestion.exists_unclosed_eq
    cases front with
    | nil => exact Or.inl rfl
    | cons first front =>
        obtain ⟨rfl, _⟩ := List.cons_prefix_cons.mp (opens ▸ short)
        exact Or.inl (ofText?_of_prefix_unclosed (trimmed.trans short))
  rcases List.prefix_cons_iff.mp within with rfl | ⟨front, rfl, enclosed⟩
  · exact Or.inl rfl
  · rw [written_append] at enclosed
    rcases Text.prefix_append_cases enclosed with short | ⟨more, rfl, behind⟩
    · exact unread front short
    · rcases List.prefix_cons_iff.mp behind with rfl | ⟨rest, rfl, _⟩
      · rw [List.append_nil]
        exact unread suggestion.unclosed List.prefix_rfl
      · rw [← written_append]
        have harmless : suggestion.Harmless (Text.trim (['\n'] ++ (suggestion.written ++ rest))) :=
          harmless_trim suggestion rest (by decide)
        exact harmless

/-- The object in a fenced block that carries a tag. -/
def fenced (tag content : Text) : Text :=
  fence ++ (tag ++ ('\n' :: (content ++ ('\n' :: fence))))

theorem fenced_append (tag content after : Text) :
    fenced tag content ++ after = fence ++ (tag ++ ('\n' :: (content ++ ['\n']) ++ (fence ++ after))) := by
  simp only [fenced, List.append_assoc, List.cons_append, List.nil_append]

/-- A block that the outer fence opens. -/
theorem harmless_of_own_fence (tag : Text) {block : Text} (freeBefore : '\x60' ∉ before)
    (found : block? (fence ++ tag) (before ++ (fenced tag suggestion.written ++ after)) = some block) :
    suggestion.Harmless block := by
  rw [fenced_append, ← List.append_assoc fence] at found
  rw [show fence ++ tag = '\x60' :: (['\x60', '\x60'] ++ tag) from rfl, block?_of_first _ freeBefore] at found
  obtain ⟨⟨inner, behind⟩, closes, rfl⟩ := Option.map_eq_some_iff.mp found
  exact harmless_of_prefix_enclosed (Text.prefix_of_cut? closes)

/-- A fence without tag is found at the one with a tag. -/
theorem harmless_of_tag_in_block {block : Text} (freeBefore : '\x60' ∉ before)
    (found : block? fence (before ++ (fenced jsonTag suggestion.written ++ after)) = some block) :
    suggestion.Harmless block := by
  left
  rw [fenced_append, show fence = '\x60' :: ['\x60', '\x60'] from rfl, block?_of_first _ freeBefore] at found
  obtain ⟨⟨inner, behind⟩, closes, rfl⟩ := Option.map_eq_some_iff.mp found
  rw [← List.append_assoc] at closes
  have front := Text.prefix_of_cut? closes
  rcases List.prefix_cons_iff.mp front with rfl | ⟨more, rfl, _⟩
  · rfl
  · have trimmed : Text.trimEndBy Text.isBlankChar ([] ++ 'j' :: more) =
        [] ++ 'j' :: Text.trimEndBy Text.isBlankChar more := Text.trimEndBy_append_cons more rfl
    change ofText? (Text.trimEndBy Text.isBlankChar ([] ++ 'j' :: more)) = none
    rw [trimmed]
    exact ofText?_of_other_front rfl (by decide) (by decide)

/-- Behind the object one fence stands, which no tagged fence with a closing one
fits into. -/
theorem tagged_not_suffix_of_closing {rest behind inner : Text} (freeAfter : '\x60' ∉ after)
    (whole : rest = inner ++ (fence ++ behind)) :
    ¬ (fence ++ jsonTag) ++ rest <:+ '\n' :: (fence ++ after) := by
  intro within
  have own : List.count '\x60' fence = 3 := rfl
  have needed : 6 ≤ List.count '\x60' ((fence ++ jsonTag) ++ rest) := by
    rw [whole]
    simp only [List.count_append, own]
    omega
  have given : List.count '\x60' ('\n' :: (fence ++ after)) = 3 := by
    rw [List.count_cons_of_ne (by decide), List.count_append, own, List.count_eq_zero.mpr freeAfter]
  have fewer := within.sublist.count_le '\x60'
  omega

/-- A tagged fence is not the outer one if that has no tag. -/
theorem suffix_of_tagged_suffix {rest text : Text}
    (within : (fence ++ jsonTag) ++ rest <:+ fence ++ '\n' :: text) : (fence ++ jsonTag) ++ rest <:+ text := by
  rcases List.suffix_cons_iff.mp within with impossible | second
  · cases impossible
  · rcases List.suffix_cons_iff.mp second with impossible | third
    · cases impossible
    · rcases List.suffix_cons_iff.mp third with impossible | line
      · cases impossible
      · exact Text.suffix_of_cons_suffix_append (show '\x60' :: _ <:+ ['\n'] ++ text from line) (by decide)

theorem ofText?_block_of_untagged {block : Text} (freeBefore : '\x60' ∉ before) (freeAfter : '\x60' ∉ after)
    (found : block? (fence ++ jsonTag) (before ++ (fenced [] suggestion.written ++ after)) = some block) :
    ofText? block = none := by
  obtain ⟨inner, rest, behind, within, closes, rfl⟩ := exists_of_block? found
  have whole : rest = inner ++ (fence ++ behind) := by rw [Text.append_of_cut? closes, List.append_assoc]
  have atFence := Text.suffix_of_cons_suffix_append within freeBefore
  rw [fenced_append, List.nil_append, List.cons_append, List.append_assoc] at atFence
  have inObject := suffix_of_tagged_suffix atFence
  have noQuote : '"' ∉ '\x60' :: (['\x60', '\x60'] ++ jsonTag) := by decide
  rcases rest_cases_of_written noQuote (by decide) inObject with
    ⟨inside, following, guarded, misleads, same⟩ | ⟨inside, guarded, same⟩ | outside
  · exact ofText?_trim_of_stray guarded misleads ⟨fence ++ behind, whole.symm.trans same⟩
  · have split : rest = (inside ++ '"' :: ['\x7d', '\n']) ++ (fence ++ after) := by
      rw [same, List.append_assoc]
      rfl
    rw [split] at closes
    exact ofText?_trim_of_stray guarded misleads_closing (Text.prefix_of_cut? closes)
  · exact absurd outside (tagged_not_suffix_of_closing freeAfter whole)

/-! ## The suggestion is found -/

/-- Text around a suggestion, which has neither fences nor braces. -/
structure Prose (text : Text) : Prop where
  noTick : '\x60' ∉ text
  noOpening : '\x7b' ∉ text
  noClosing : '\x7d' ∉ text

theorem prose_nil : Prose [] := ⟨List.not_mem_nil, List.not_mem_nil, List.not_mem_nil⟩

theorem ofReply_bare (query : suggestion.sql.isBlank = false) (front : Prose before) (back : Prose after) :
    ofReply (before ++ (suggestion.written ++ after)) = .ok suggestion :=
  ofReply_of_harmless query front.noOpening back.noClosing
    (fun _ found => Or.inl
      (ofText?_block_of_bare (by decide) (by decide) front.noTick back.noTick found))
    (fun _ found => Or.inl
      (ofText?_block_of_bare (by decide) (by decide) front.noTick back.noTick found))

theorem ofReply_fenced {tag : Text} (query : suggestion.sql.isBlank = false) (front : Prose before)
    (back : Prose after) (known : tag = jsonTag ∨ tag = []) :
    ofReply (before ++ (fenced tag suggestion.written ++ after)) = .ok suggestion := by
  have around : before ++ (fenced tag suggestion.written ++ after) =
      (before ++ (fence ++ (tag ++ ['\n']))) ++ (suggestion.written ++ ('\n' :: (fence ++ after))) := by
    simp only [fenced, List.append_assoc, List.cons_append, List.nil_append]
  have opens : '\x7b' ∉ before ++ (fence ++ (tag ++ ['\n'])) := by
    intro member
    rcases List.mem_append.mp member with outside | line
    · exact front.noOpening outside
    · rcases known with rfl | rfl
      · exact absurd line (by decide)
      · exact absurd line (by decide)
  have closes : '\x7d' ∉ '\n' :: (fence ++ after) := by
    intro member
    rcases List.mem_append.mp (show '\x7d' ∈ ('\n' :: fence) ++ after from member) with line | outside
    · exact absurd line (by decide)
    · exact back.noClosing outside
  rw [around]
  refine ofReply_of_harmless query opens closes (fun block found => ?_) (fun block found => ?_)
  · rw [← around] at found
    rcases known with rfl | rfl
    · exact harmless_of_own_fence _ front.noTick found
    · exact Or.inl (ofText?_block_of_untagged front.noTick back.noTick found)
  · rw [← around] at found
    rcases known with rfl | rfl
    · exact harmless_of_tag_in_block front.noTick found
    · exact harmless_of_own_fence [] front.noTick found

/-- Whatever the texts of a suggestion are, it is found by itself, between
other words, and in a fenced block with or without a tag. -/
theorem ofReply_undoes_wrapping (suggestion : Suggestion) (query : suggestion.sql.isBlank = false)
    (before after : Text) (front : Prose before) (back : Prose after) :
    ofReply suggestion.written = .ok suggestion ∧
      ofReply (before ++ suggestion.written ++ after) = .ok suggestion ∧
      ofReply (before ++ "\x60\x60\x60json\n" ++ suggestion.written ++ "\n\x60\x60\x60" ++ after) =
        .ok suggestion ∧
      ofReply (before ++ "\x60\x60\x60\n" ++ suggestion.written ++ "\n\x60\x60\x60" ++ after) =
        .ok suggestion := by
  refine ⟨?_, ?_, ?_, ?_⟩
  · have alone := ofReply_bare query prose_nil prose_nil
    rwa [List.nil_append, List.append_nil] at alone
  · rw [List.append_assoc]
    exact ofReply_bare query front back
  · have tagged := ofReply_fenced query front back (Or.inl rfl)
    simp only [fenced, List.append_assoc, List.cons_append] at tagged
    simp only [List.append_assoc]
    exact tagged
  · have plain := ofReply_fenced query front back (Or.inr rfl)
    simp only [fenced, List.append_assoc, List.cons_append] at plain
    simp only [List.append_assoc]
    exact plain

/-- A suggestion whose texts hold fenced blocks, an array behind a fence, lone
braces and an object that reads as another suggestion. -/
def misleading : Suggestion where
  sql := "SELECT '\x60\x60\x60json [\"a\"] \x60\x60\x60' AS x -- \x7d\\"
  explanation := "\x60\x60\x60json\n\x7b\"sql\":\"SELECT 0\"\x7d\n\x60\x60\x60"
  responseTemplate := "\x60\x60\x60json[\"b\",\x60\x60\x60\x7b"

theorem ofReply_undoes_wrapping_misleading :
    misleading.sql.isBlank = false ∧ Prose "Sure, [\"here\", " ∧ Prose "json [\"it\"] is." ∧
      ofReply misleading.written = .ok misleading ∧
      ofReply ("Sure, [\"here\", " ++ misleading.written ++ "json [\"it\"] is.") = .ok misleading ∧
      ofReply ("Sure, [\"here\", " ++ "\x60\x60\x60json\n" ++ misleading.written ++ "\n\x60\x60\x60" ++
        "json [\"it\"] is.") = .ok misleading ∧
      ofReply ("Sure, [\"here\", " ++ "\x60\x60\x60\n" ++ misleading.written ++ "\n\x60\x60\x60" ++
        "json [\"it\"] is.") = .ok misleading := by
  have query : misleading.sql.isBlank = false := by decide
  have front : Prose "Sure, [\"here\", " := ⟨by decide, by decide, by decide⟩
  have back : Prose "json [\"it\"] is." := ⟨by decide, by decide, by decide⟩
  exact ⟨query, front, back, ofReply_undoes_wrapping misleading query _ _ front back⟩

end Suggestion
end FeedDesk
