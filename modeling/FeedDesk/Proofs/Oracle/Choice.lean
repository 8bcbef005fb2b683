import FeedDesk.Proofs.First
import FeedDesk.Proofs.Json.Inside
import FeedDesk.Proofs.Oracle.Wrapping

namespace FeedDesk
namespace Suggestion

open Json Json.Written

/-!
# Which place of a reply decides

A reply holds up to four places where a suggestion may stand.  The first that
reads as a suggestion decides, even if its query is blank, and a good query in a
later place is then lost.  The places are parts of one reply, so not all of them
can be at odds.  If the reply as a whole is a suggestion, a fence in it stands
inside of a quoted text; a block behind it is read astray, and a query that is
read astray holds a comma or a colon and is not blank.  The part between the
braces is then the whole reply, or it begins inside of a quoted text as well.  So
a query is lost only behind a fenced block.
-/

/-! ## Suggestions that are read astray -/

theorem mem_of_chars? {pieces : List Piece} {text : Text} {char : Char} (read : chars? pieces = some text)
    (member : .char char ∈ pieces) : char ∈ text := by
  fun_induction chars? pieces generalizing text with
  | case1 => cases member
  | case2 first pieces inductionHypothesis =>
      obtain ⟨others, found, rfl⟩ := Option.map_eq_some_iff.mp read
      rcases List.mem_cons.mp member with same | behind
      · cases same
        exact List.mem_cons_self
      · exact List.mem_cons_of_mem _ (inductionHypothesis found behind)
  | case3 leading trailing pieces _ _ inductionHypothesis =>
      obtain ⟨others, found, rfl⟩ := Option.map_eq_some_iff.mp read
      have behind : .char char ∈ pieces := by simpa using member
      exact List.mem_cons_of_mem _ (inductionHypothesis found behind)
  | case4 => cases read
  | case5 => cases read
  | case6 leading trailing pieces _ _ inductionHypothesis =>
      obtain ⟨others, found, rfl⟩ := Option.map_eq_some_iff.mp read
      have behind : .char char ∈ .unit trailing :: pieces := by simpa using member
      exact List.mem_cons_of_mem _ (inductionHypothesis found behind)
  | case7 => cases read
  | case8 code pieces _ _ inductionHypothesis =>
      obtain ⟨others, found, rfl⟩ := Option.map_eq_some_iff.mp read
      have behind : .char char ∈ pieces := by simpa using member
      exact List.mem_cons_of_mem _ (inductionHypothesis found behind)

/-- A field stays absent if no member has its name. -/
theorem placeMembers_absent_of_others {names : List Text} {fields : List (List Text)}
    {members : List (List Piece × Written)} {slots found : List Slot}
    (placed : placeMembers (names :: fields) members (.absent :: slots) = some found)
    (others : ∀ member ∈ members, ∀ name ∈ names, chars? member.1 ≠ some name) :
    ∃ later, found = .absent :: later := by
  induction members generalizing slots with
  | nil =>
      cases placed
      exact ⟨slots, rfl⟩
  | cons member members inductionHypothesis =>
      obtain ⟨pieces, value⟩ := member
      obtain ⟨name, named, placed⟩ := Option.bind_eq_some_iff.mp placed
      obtain ⟨filled, here, placed⟩ := Option.bind_eq_some_iff.mp placed
      have other : name ∉ names := fun listed => others _ List.mem_cons_self name listed named
      have step : place name value (names :: fields) (.absent :: slots) =
          if name ∈ names then some (.given value :: slots)
          else (place name value fields slots).map (.absent :: ·) := rfl
      rw [step, if_neg other] at here
      obtain ⟨later, _, rfl⟩ := Option.map_eq_some_iff.mp here
      exact inductionHypothesis placed fun member listed => others member (List.mem_cons_of_mem _ listed)

/-- What is read as a suggestion from inside of a quoted text is an array, and
its query is not blank. -/
theorem exists_array_of_inside {away : Char} {text behind : Text} {suggestion : Suggestion}
    (read : ofText? text = some suggestion) (inside : Inside away (text ++ behind)) :
    (∃ items, Written.ofText? text = some (.array items)) ∧ suggestion.sql.isBlank = false := by
  obtain ⟨value, written, read⟩ := Option.bind_eq_some_iff.mp read
  have astray := astray_of_ofText? written inside
  obtain ⟨pieces, others, slots, query, _⟩ := exists_slots_of_ofWritten read
  rcases ofWritten_cases read with ⟨items, rfl, nonempty, _⟩ | ⟨members, rfl, _⟩
  · refine ⟨⟨items, written⟩, ?_⟩
    have first : .string pieces ∈ items := by
      obtain ⟨item, items, rfl⟩ := List.exists_cons_of_ne_nil nonempty
      rw [slots?] at slots
      split at slots
      · have head := (List.cons.inj (Option.some.inj slots)).1
        cases head
        exact List.mem_cons_self
      · cases slots
    obtain ⟨mark, separating, member⟩ := astray pieces first
    have solid : Text.isBlankChar mark = false := by
      rcases Bool.or_eq_true_iff.mp separating with same | same
      · rw [beq_iff_eq.mp same]
        rfl
      · rw [beq_iff_eq.mp same]
        rfl
    exact List.all_eq_false.mpr ⟨mark, mem_of_chars? query member, Bool.eq_false_iff.mp solid⟩
  · have unmarked : ∀ name ∈ [(show Text from "sql"), "query"], name.any separates = false := by decide
    obtain ⟨later, same⟩ := placeMembers_absent_of_others slots fun member listed name known named => by
      obtain ⟨mark, separating, inName⟩ := astray member listed
      exact List.any_eq_false.mp (unmarked name known) mark (mem_of_chars? named inName) separating
    cases (List.cons.inj same).1

/-! ## Replies that are a suggestion as a whole -/

variable {reply block place : Text} {whole suggestion : Suggestion}

theorem bare_of_isBlankChar {away char : Char} (blank : Text.isBlankChar char = true)
    (solid : Text.isBlankChar away = false) : Bare away char := by
  refine ⟨?_, ?_, ?_⟩
  · rintro rfl
    cases blank
  · rintro rfl
    cases blank
  · rintro rfl
    exact Bool.false_ne_true (solid.symm.trans blank)

theorem isBlankChar_of_isSpace {char : Char} (space : isSpace char = true) : Text.isBlankChar char = true := by
  cases blank : Text.isBlankChar char with
  | true => rfl
  | false => exact absurd space (Bool.eq_false_iff.mp (isSpace_eq_false_of_isBlankChar blank))

/-- Trimming does not change what is quoted. -/
theorem outside_of_trim {away : Char} (outside : Outside away true reply.trim)
    (solid : Text.isBlankChar away = false) : Outside away true reply := by
  obtain ⟨lead, trail, same, leadBlank, trailBlank⟩ := Text.exists_append_trim reply
  have inner : Outside away true (reply.trim ++ trail) :=
    outside.append fun char member => bare_of_isBlankChar (trailBlank char member) solid
  have skips : Skips away reply (reply.trim ++ trail) :=
    ⟨lead, same, fun char member => bare_of_isBlankChar (leadBlank char member) solid⟩
  exact (Passes.skips skips).outside inner

/-- No fenced block of such a reply is a suggestion without a query. -/
theorem isBlank_sql_of_block? {mark : Text} (read : ofText? reply.trim = some whole)
    (bare : ∀ char ∈ '\x60' :: mark, Bare '"' char) (found : block? ('\x60' :: mark) reply = some block)
    (blockRead : ofText? block = some suggestion) : suggestion.sql.isBlank = false := by
  obtain ⟨value, written, _⟩ := Option.bind_eq_some_iff.mp read
  have outside := outside_of_trim (outside_of_ofText? written) rfl
  obtain ⟨inner, rest, behind, ⟨front, same⟩, closes, rfl⟩ := exists_of_block? found
  rw [← same, List.cons_append] at outside
  have opening : Inside '\x60' (('\x60' :: (mark ++ rest)) ++ []) := by
    rw [List.append_nil]
    exact outside.inside (by decide) (by decide)
  -- The mark is made of backticks itself, so it is skipped as text without quotation marks.
  have insideRest := opening.of_skips (show Skips '"' ('\x60' :: (mark ++ rest)) rest from ⟨_, rfl, bare⟩)
  rw [List.append_nil, Text.append_of_cut? closes, List.append_assoc] at insideRest
  obtain ⟨lead, trail, innerEq, leadBlank, _⟩ := Text.exists_append_trim inner
  have skips : Skips '\x60' inner (inner.trim ++ trail) :=
    ⟨lead, innerEq, fun char member => bare_of_isBlankChar (leadBlank char member) rfl⟩
  have insideBlock := insideRest.of_skips skips
  rw [List.append_assoc] at insideBlock
  exact (exists_array_of_inside blockRead insideBlock).2

/-- The part between the braces begins with one. -/
theorem exists_of_braced? (found : braced? reply = some place) :
    ∃ front inner back, reply = front ++ '\x7b' :: (inner ++ back) ∧ place = '\x7b' :: inner := by
  obtain ⟨back, fromBrace, _⟩ :=
    Text.exists_trimEndBy_append (· != '\x7d') (reply.dropWhile (· != '\x7b'))
  unfold braced? at found
  dsimp only at found
  split at found
  · cases found
  · rename_i something
    rw [Option.some.inj found] at fromBrace something
    rw [List.isEmpty_iff] at something
    obtain ⟨first, inner, rfl⟩ := List.exists_cons_of_ne_nil something
    have opening := List.head?_dropWhile_not (· != '\x7b') reply
    rw [fromBrace] at opening
    obtain rfl : first = '\x7b' := by simpa using opening
    refine ⟨reply.takeWhile (· != '\x7b'), inner, back, ?_, rfl⟩
    calc reply = reply.takeWhile (· != '\x7b') ++ reply.dropWhile (· != '\x7b') :=
          List.takeWhile_append_dropWhile.symm
      _ = reply.takeWhile (· != '\x7b') ++ '\x7b' :: (inner ++ back) := congrArg _ fromBrace

/-- The braces of an array stand in its texts, and what begins there is no
suggestion. -/
theorem ofText?_braced_of_array {items : List Written}
    (written : Written.ofText? reply.trim = some (.array items))
    (texts : ∀ item ∈ items, ∃ pieces, item = .string pieces) (found : braced? reply = some place) :
    ofText? place = none := by
  have outside := outside_of_trim (outside_of_ofText?_texts written texts) rfl
  obtain ⟨front, inner, back, rfl, rfl⟩ := exists_of_braced? found
  have inside : Inside '\x7b' (('\x7b' :: inner) ++ back) := outside.inside (by decide) (by decide)
  cases placeRead : ofText? ('\x7b' :: inner) with
  | none => rfl
  | some suggestion =>
      obtain ⟨⟨others, array⟩, _⟩ := exists_array_of_inside placeRead inside
      obtain ⟨_, list, _⟩ := exists_value?_of_ofText? array
      obtain ⟨_, bracket, _⟩ := exists_of_value?_array list
      rw [skipSpace_cons _ rfl] at bracket
      exact absurd (List.cons.inj bracket).1 (by decide)

/-- The braces of an object are its own. -/
theorem braced?_of_object {members : List (List Piece × Written)}
    (written : Written.ofText? reply.trim = some (.object members)) : braced? reply = some reply.trim := by
  obtain ⟨lead, inner, trail, core, leadSpace, trailSpace⟩ := exists_braces_of_ofText? written
  obtain ⟨front, back, around, frontBlank, backBlank⟩ := Text.exists_append_trim reply
  have blankFront : ∀ char ∈ front ++ lead, Text.isBlankChar char = true := by
    intro char member
    rcases List.mem_append.mp member with inFront | inLead
    · exact frontBlank char inFront
    · exact isBlankChar_of_isSpace (leadSpace char inLead)
  have blankBack : ∀ char ∈ trail ++ back, Text.isBlankChar char = true := by
    intro char member
    rcases List.mem_append.mp member with inTrail | inBack
    · exact isBlankChar_of_isSpace (trailSpace char inTrail)
    · exact backBlank char inBack
  have parts : reply = (front ++ lead) ++ '\x7b' :: (inner ++ '\x7d' :: (trail ++ back)) := by
    rw [core] at around
    rw [around]
    simp only [List.append_assoc, List.cons_append]
  have trimmed : reply.trim = '\x7b' :: (inner ++ ['\x7d']) := by
    rw [parts]
    exact Text.trim_eq blankFront rfl rfl blankBack
  rw [trimmed, parts]
  refine braced?_eq (fun member => ?_) (fun member => ?_)
  · cases blankFront _ member
  · cases blankBack _ member

/-- The part between the braces of such a reply is the whole reply, or it is no
suggestion. -/
theorem harmless_of_braced? (read : ofText? reply.trim = some whole) (found : braced? reply = some place) :
    whole.Harmless place := by
  obtain ⟨value, written, valueRead⟩ := Option.bind_eq_some_iff.mp read
  rcases ofWritten_cases valueRead with ⟨items, rfl, _, texts⟩ | ⟨members, rfl, _⟩
  · exact Or.inl (ofText?_braced_of_array written texts found)
  · obtain rfl := Option.some.inj ((braced?_of_object written).symm.trans found)
    exact Or.inr read

/-! ## The place that decides -/

/-- The place reads as a suggestion. -/
def Reads (place : Text) : Prop :=
  ∃ suggestion, ofText? place = some suggestion

/-- It does, and the suggestion has a query. -/
def Usable (place : Text) : Prop :=
  ∃ suggestion, ofText? place = some suggestion ∧ suggestion.sql.isBlank = false

/-- It does, and the suggestion has no query. -/
def Hollow (place : Text) : Prop :=
  ∃ suggestion, ofText? place = some suggestion ∧ suggestion.sql.isBlank = true

theorem Usable.reads (usable : Usable place) : Reads place := by
  obtain ⟨suggestion, read, _⟩ := usable
  exact ⟨suggestion, read⟩

theorem Hollow.reads (hollow : Hollow place) : Reads place := by
  obtain ⟨suggestion, read, _⟩ := hollow
  exact ⟨suggestion, read⟩

theorem Hollow.not_usable (hollow : Hollow place) : ¬ Usable place := by
  rintro ⟨other, otherRead, query⟩
  obtain ⟨suggestion, read, blank⟩ := hollow
  obtain rfl := Option.some.inj (read.symm.trans otherRead)
  exact Bool.false_ne_true (query.symm.trans blank)

theorem Reads.usable_or_hollow (reads : Reads place) : Usable place ∨ Hollow place := by
  obtain ⟨suggestion, read⟩ := reads
  cases query : suggestion.sql.isBlank with
  | false => exact Or.inl ⟨suggestion, read, query⟩
  | true => exact Or.inr ⟨suggestion, read, query⟩

theorem mem_candidates_iff : place ∈ candidates reply ↔ block? (fence ++ jsonTag) reply = some place ∨
    block? fence reply = some place ∨ place = reply.trim ∨ braced? reply = some place := by
  simp only [candidates, List.mem_append, Option.mem_toList, List.mem_singleton, or_assoc]
  rfl

/-- The first of the places, one after another. -/
theorem first_candidates_iff {holds : Text → Prop} : First holds (candidates reply) place ↔
    block? (fence ++ jsonTag) reply = some place ∧ holds place ∨
    (∀ tagged, block? (fence ++ jsonTag) reply = some tagged → ¬ holds tagged) ∧
      (block? fence reply = some place ∧ holds place ∨
      (∀ block, block? fence reply = some block → ¬ holds block) ∧
        (some reply.trim = some place ∧ holds place ∨
        ¬ holds reply.trim ∧ braced? reply = some place ∧ holds place)) := by
  have whole : [reply.trim] = (some reply.trim).toList := rfl
  rw [candidates, List.append_assoc, List.append_assoc, First.append_iff, First.append_iff, First.append_iff,
    whole, First.toList_iff, First.toList_iff, First.toList_iff, First.toList_iff]
  simp only [Option.mem_toList, Option.some.injEq, forall_eq']
  rfl

theorem ofReply_eq_ok_iff : ofReply reply = .ok suggestion ↔
    ∃ place, First Reads (candidates reply) place ∧ ofText? place = some suggestion ∧
      suggestion.sql.isBlank = false := by
  unfold ofReply
  constructor
  · intro answered
    split at answered
    · cases answered
    · rename_i found
      split at answered
      · cases answered
      · rename_i query
        cases answered
        obtain ⟨place, first, read⟩ := First.findSome?_eq_some_iff.mp found
        exact ⟨place, first, read, Bool.eq_false_iff.mpr query⟩
  · rintro ⟨place, first, read, query⟩
    rw [First.findSome?_eq_some_iff.mpr ⟨place, first, read⟩]
    simp only [query, Bool.false_eq_true, if_false]

theorem ofReply_eq_blankQuery_iff : ofReply reply = .error .blankQuery ↔
    ∃ place, First Reads (candidates reply) place ∧ Hollow place := by
  unfold ofReply
  constructor
  · intro answered
    split at answered
    · cases answered
    · rename_i found
      split at answered
      · rename_i blank
        obtain ⟨place, first, read⟩ := First.findSome?_eq_some_iff.mp found
        exact ⟨place, first, _, read, blank⟩
      · cases answered
  · rintro ⟨place, first, suggestion, read, blank⟩
    rw [First.findSome?_eq_some_iff.mpr ⟨place, first, read⟩]
    simp only [blank, if_true]

/-- A suggestion without a query hides one with a query: it stands in a tagged
block, before another block or a part between braces, or in the first block of any
kind, before a part between braces. -/
inductive Hidden (reply : Text) : Prop
  | tagged {block other : Text} : block? (fence ++ jsonTag) reply = some block → Hollow block →
      block? fence reply = some other ∨ braced? reply = some other → Usable other → Hidden reply
  | plain {block part : Text} : (∀ tagged, block? (fence ++ jsonTag) reply = some tagged → ¬ Reads tagged) →
      block? fence reply = some block → Hollow block → braced? reply = some part → Usable part → Hidden reply

theorem not_hollow_of_block? {mark : Text} (whole : Reads reply.trim)
    (bare : ∀ char ∈ '\x60' :: mark, Bare '"' char) (found : block? ('\x60' :: mark) reply = some block) :
    ¬ Hollow block := by
  rintro ⟨suggestion, read, blank⟩
  obtain ⟨_, wholeRead⟩ := whole
  exact Bool.false_ne_true ((isBlank_sql_of_block? wholeRead bare found read).symm.trans blank)

theorem not_usable_of_braced? (whole : Hollow reply.trim) (found : braced? reply = some place) :
    ¬ Usable place := by
  obtain ⟨suggestion, read, blank⟩ := whole
  rintro ⟨other, otherRead, query⟩
  rcases harmless_of_braced? read found with none | same
  · rw [none] at otherRead
    cases otherRead
  · obtain rfl := Option.some.inj (same.symm.trans otherRead)
    exact Bool.false_ne_true (query.symm.trans blank)

/-- A query is lost exactly if it is hidden. -/
theorem lost_iff_hidden :
    (∃ place, First Reads (candidates reply) place ∧ Hollow place ∧ ∃ other ∈ candidates reply, Usable other) ↔
      Hidden reply := by
  constructor
  · rintro ⟨place, first, hollow, other, listed, usable⟩
    rw [mem_candidates_iff] at listed
    have bareTagged : ∀ char ∈ fence ++ jsonTag, Bare '"' char := bare_of_all (by decide)
    have barePlain : ∀ char ∈ fence, Bare '"' char := bare_of_all (by decide)
    have wholeKept : other = reply.trim → ∀ {mark}, (∀ char ∈ '\x60' :: mark, Bare '"' char) →
        block? ('\x60' :: mark) reply ≠ some place := by
      rintro rfl mark bare found
      exact not_hollow_of_block? usable.reads bare found hollow
    -- First the place that decides, then the one that is lost.  The whole reply is neither: as the
    -- second it would exclude a block without a query, as the first a better part between braces.
    rcases first_candidates_iff.mp first with ⟨tagged, _⟩ | ⟨noTagged, ⟨plain, _⟩ |
      ⟨noPlain, ⟨whole, _⟩ | ⟨noWhole, braced, _⟩⟩⟩
    · rcases listed with same | plain | whole | braced
      · cases tagged.symm.trans same
        exact absurd usable hollow.not_usable
      · exact .tagged tagged hollow (Or.inl plain) usable
      · exact absurd tagged (wholeKept whole bareTagged)
      · exact .tagged tagged hollow (Or.inr braced) usable
    · rcases listed with tagged | same | whole | braced
      · exact absurd usable.reads (noTagged other tagged)
      · cases plain.symm.trans same
        exact absurd usable hollow.not_usable
      · exact absurd plain (wholeKept whole barePlain)
      · exact .plain noTagged plain hollow braced usable
    · cases whole
      rcases listed with tagged | plain | same | braced
      · exact absurd usable.reads (noTagged other tagged)
      · exact absurd usable.reads (noPlain other plain)
      · exact absurd (same ▸ usable) hollow.not_usable
      · exact absurd usable (not_usable_of_braced? hollow braced)
    · rcases listed with tagged | plain | whole | same
      · exact absurd usable.reads (noTagged other tagged)
      · exact absurd usable.reads (noPlain other plain)
      · exact absurd (whole ▸ usable.reads) noWhole
      · cases braced.symm.trans same
        exact absurd usable hollow.not_usable
  · rintro (⟨found, hollow, others, usable⟩ | ⟨noTagged, found, hollow, braced, usable⟩)
    · refine ⟨_, first_candidates_iff.mpr (Or.inl ⟨found, hollow.reads⟩), hollow, _, ?_, usable⟩
      rw [mem_candidates_iff]
      rcases others with plain | braced
      · exact Or.inr (Or.inl plain)
      · exact Or.inr (Or.inr (Or.inr braced))
    · have first := first_candidates_iff.mpr (Or.inr ⟨noTagged, Or.inl ⟨found, hollow.reads⟩⟩)
      exact ⟨_, first, hollow, _, mem_candidates_iff.mpr (Or.inr (Or.inr (Or.inr braced))), usable⟩

/-- A reply is answered with the first of its suggestions that has a query, but
not if this one is hidden: then the reply is refused as one without a query,
although there is one. -/
theorem ofReply_eq_first_usable_unless_hidden (reply : Text) :
    (∀ suggestion, ofReply reply = .ok suggestion ↔
      (∃ place, First Usable (candidates reply) place ∧ ofText? place = some suggestion) ∧ ¬ Hidden reply) ∧
    (Hidden reply → (∃ place ∈ candidates reply, Usable place) ∧ ofReply reply = .error .blankQuery) := by
  have refused : Hidden reply → (∃ place ∈ candidates reply, Usable place) ∧
      ofReply reply = .error .blankQuery := by
    intro hidden
    obtain ⟨place, first, hollow, usable⟩ := lost_iff_hidden.mpr hidden
    exact ⟨usable, ofReply_eq_blankQuery_iff.mpr ⟨place, first, hollow⟩⟩
  refine ⟨fun suggestion => ⟨fun answered => ⟨?_, fun hidden => ?_⟩, ?_⟩, refused⟩
  · obtain ⟨place, first, read, query⟩ := ofReply_eq_ok_iff.mp answered
    exact ⟨place, first.strengthen (fun _ => Usable.reads) ⟨suggestion, read, query⟩, read⟩
  · have blank := (refused hidden).2
    rw [answered] at blank
    cases blank
  · rintro ⟨⟨place, usable, read⟩, kept⟩
    obtain ⟨decisive, first⟩ := First.exists_of_mem Reads usable.mem usable.holds_self.reads
    rcases first.holds_self.usable_or_hollow with good | hollow
    · obtain rfl : decisive = place := (first.strengthen (fun _ => Usable.reads) good).unique usable
      obtain ⟨other, otherRead, query⟩ := good
      obtain rfl := Option.some.inj (otherRead.symm.trans read)
      exact ofReply_eq_ok_iff.mpr ⟨decisive, first, read, query⟩
    · exact absurd (lost_iff_hidden.mp ⟨decisive, first, hollow, place, usable.mem, usable.holds_self⟩) kept

/-- A block without a tag holds a query; the tagged block behind it is tried
first and holds none. -/
def twoBlocks : Text :=
  "\x60\x60\x60\n\x7b\"sql\": \"SELECT 1\"\x7d\n\x60\x60\x60\n\x60\x60\x60json\n\x7b\"sql\": \" \"\x7d\n\x60\x60\x60"

theorem ofReply_twoBlocks_loses_query :
    ¬ ((∃ suggestion, ofReply twoBlocks = .ok suggestion) ↔ ∃ place ∈ candidates twoBlocks, Usable place) := by
  intro answered
  have listed : (show Text from "\x7b\"sql\": \"SELECT 1\"\x7d") ∈ candidates twoBlocks := by decide +kernel
  have usable : Usable "\x7b\"sql\": \"SELECT 1\"\x7d" := ⟨⟨"SELECT 1", [], []⟩, by decide +kernel, by decide⟩
  obtain ⟨suggestion, ok⟩ := answered.mpr ⟨_, listed, usable⟩
  have refused : (ofReply twoBlocks).toOption = none := by decide +kernel
  rw [ok] at refused
  cases refused

end Suggestion
end FeedDesk
