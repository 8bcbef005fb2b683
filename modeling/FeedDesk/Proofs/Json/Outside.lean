import Mathlib.Data.List.TakeWhile
import FeedDesk.Proofs.Json.Quoted
import FeedDesk.Proofs.Json.Reading

namespace FeedDesk
namespace Json

open Written

/-!
# What stands outside of quoted texts

A value is quoted texts with other characters between them.  Between the end of
one quoted text and the beginning of the next a comma or a colon stands, and
what no value needs, such as a backtick, stands in quoted texts only.  Both are
a shape of the text alone.  Every reader passes from a text to a rest of it, and
if the rest has the shape, so has the text; so the shape is carried from the end
of a value back to its front, one reader after another.
-/

/-- A character for use between quoted texts: none that quoting needs, and not
the one that is kept away from there. -/
def Bare (away char : Char) : Prop :=
  char ≠ '"' ∧ char ≠ '\\' ∧ char ≠ away

instance (away char : Char) : Decidable (Bare away char) :=
  inferInstanceAs (Decidable (_ ∧ _))

theorem bare_of_all {away : Char} {text : Text} (all : text.all (fun char => decide (Bare away char)) = true) :
    ∀ char ∈ text, Bare away char :=
  fun char member => of_decide_eq_true (List.all_eq_true.mp all char member)

/-- What comes between quoted texts. -/
def separates (char : Char) : Bool :=
  char == ',' || char == ':'

/-- A text that begins outside of quoted texts.  If it is not ready for one, a
comma or a colon comes first. -/
inductive Outside (away : Char) : (ready : Bool) → Text → Prop
  | nil {ready : Bool} : Outside away ready []
  | bare {ready : Bool} {char : Char} {text : Text} : Bare away char →
      Outside away (ready || separates char) text → Outside away ready (char :: text)
  | quoted {body text : Text} : Guarded body → Outside away false text →
      Outside away true ('"' :: (body ++ '"' :: text))

variable {away char : Char} {ready next last : Bool} {text middle rest : Text}

theorem Outside.get_ready (outside : Outside away ready text) : Outside away true text := by
  induction outside with
  | nil => exact .nil
  | bare plain _ inductionHypothesis => exact .bare plain inductionHypothesis
  | quoted guarded outside _ => exact .quoted guarded outside

theorem Outside.more_ready (outside : Outside away ready text) (more : Bool) :
    Outside away (ready || more) text := by
  cases more with
  | false => rwa [Bool.or_false]
  | true =>
      rw [Bool.or_true]
      exact outside.get_ready

/-! ## Skipping bare characters -/

/-- The text is bare characters up to the rest. -/
def Skips (away : Char) (text rest : Text) : Prop :=
  ∃ taken, text = taken ++ rest ∧ ∀ char ∈ taken, Bare away char

namespace Skips

theorem refl (away : Char) (text : Text) : Skips away text text :=
  ⟨[], rfl, fun _ member => absurd member List.not_mem_nil⟩

theorem trans (first : Skips away text middle) (second : Skips away middle rest) : Skips away text rest := by
  obtain ⟨front, rfl, frontBare⟩ := first
  obtain ⟨back, rfl, backBare⟩ := second
  refine ⟨front ++ back, (List.append_assoc _ _ _).symm, fun char member => ?_⟩
  rcases List.mem_append.mp member with inFront | inBack
  · exact frontBare char inFront
  · exact backBare char inBack

theorem cons (bare : Bare away char) (skips : Skips away text rest) : Skips away (char :: text) rest := by
  obtain ⟨taken, rfl, takenBare⟩ := skips
  exact ⟨char :: taken, rfl, List.forall_mem_cons.mpr ⟨bare, takenBare⟩⟩

theorem dropWhile {test : Char → Bool} (bare : ∀ char, test char = true → Bare away char) (text : Text) :
    Skips away text (text.dropWhile test) := by
  refine ⟨text.takeWhile test, List.takeWhile_append_dropWhile.symm, fun char member => ?_⟩
  exact bare char (List.all_eq_true.mp List.all_takeWhile char member)

theorem skipSpace (other : isSpace away = false) (text : Text) : Skips away text (skipSpace text) := by
  refine dropWhile (fun char space => ?_) text
  refine ⟨?_, ?_, ?_⟩
  · rintro rfl
    cases space
  · rintro rfl
    cases space
  · rintro rfl
    exact Bool.false_ne_true (other.symm.trans space)

theorem digits? {digits : Text} (read : digits? text = some (digits, rest)) : Skips '\x60' text rest := by
  rw [Written.digits?] at read
  split at read
  · cases read
  · cases read
    refine dropWhile (fun char digit => ?_) text
    refine ⟨?_, ?_, ?_⟩ <;> (rintro rfl; cases digit)

theorem whole? {digits : Text} (read : whole? text = some (digits, rest)) : Skips '\x60' text rest := by
  rw [Written.whole?] at read
  split at read
  · cases read
  · exact digits? read

theorem places? {places : Option Text} (read : places? text = some (places, rest)) :
    Skips '\x60' text rest := by
  rw [Written.places?.eq_def] at read
  split at read
  · obtain ⟨⟨digits, others⟩, found, same⟩ := Option.map_eq_some_iff.mp read
    cases same
    exact cons (by decide) (digits? found)
  · cases read
    exact refl _ _

theorem power? {power : Option (Bool × Text)} (read : power? text = some (power, rest)) :
    Skips '\x60' text rest := by
  rw [Written.power?.eq_def] at read
  split at read
  · cases read
    exact refl _ _
  · rename_i mark text
    split at read
    · rename_i exponent
      have bare : Bare '\x60' mark := by
        rcases Bool.or_eq_true_iff.mp exponent with same | same
        · rw [beq_iff_eq.mp same]
          decide
        · rw [beq_iff_eq.mp same]
          decide
      apply cons bare
      split at read
      all_goals
        obtain ⟨⟨digits, others⟩, found, same⟩ := Option.map_eq_some_iff.mp read
        cases same
      · exact cons (by decide) (digits? found)
      · exact cons (by decide) (digits? found)
      · exact digits? found
    · cases read
      exact refl _ _

theorem numeral? {number : Numeral} (read : numeral? text = some (number, rest)) :
    Skips '\x60' text rest := by
  obtain ⟨unsigned, _, _, _, _, _, sign, whole, places, power⟩ := numeral?_cases read
  have behindSign := ((whole? whole).trans (places? places)).trans (power? power)
  rcases sign with rfl | rfl
  · exact cons (by decide) behindSign
  · exact behindSign

theorem literal {literal : Text} {value : Written} (listed : (literal, value) ∈ literals) (rest : Text) :
    Skips '\x60' (literal ++ rest) rest := by
  refine ⟨literal, rfl, bare_of_all ?_⟩
  simp only [literals, List.mem_cons, Prod.mk.injEq, List.not_mem_nil, or_false] at listed
  rcases listed with ⟨rfl, _⟩ | ⟨rfl, _⟩ | ⟨rfl, _⟩ <;> decide

end Skips

/-! ## Passing from a text to a rest of it -/

/-- A reader passes from the text to the rest: whenever the rest has the shape,
the text has it too. -/
structure Passes (away : Char) (ready next : Bool) (text rest : Text) : Prop where
  suffix : rest <:+ text
  outside : Outside away next rest → Outside away ready text

namespace Passes

theorem trans (first : Passes away ready next text middle) (second : Passes away next last middle rest) :
    Passes away ready last text rest :=
  ⟨second.suffix.trans first.suffix, fun outside => first.outside (second.outside outside)⟩

theorem settle (passes : Passes away ready true text rest) : Passes away ready false text rest :=
  ⟨passes.suffix, fun outside => passes.outside outside.get_ready⟩

theorem single (bare : Bare away char) (rest : Text) :
    Passes away ready (ready || separates char) (char :: rest) rest :=
  ⟨List.suffix_cons char rest, .bare bare⟩

theorem skips (skips : Skips away text rest) : Passes away ready ready text rest := by
  obtain ⟨taken, rfl, bare⟩ := skips
  refine ⟨List.suffix_append taken rest, fun outside => ?_⟩
  induction taken generalizing ready with
  | nil => exact outside
  | cons char taken inductionHypothesis =>
      refine .bare (bare char List.mem_cons_self) (inductionHypothesis ?_ (outside.more_ready _))
      exact fun other member => bare other (List.mem_cons_of_mem char member)

theorem pieces? {pieces : List Piece} (read : pieces? text = some (pieces, rest)) :
    Passes away true false ('"' :: text) rest := by
  obtain ⟨body, rfl, guarded⟩ := exists_guarded_of_pieces? read
  refine ⟨?_, .quoted guarded⟩
  exact (List.suffix_cons '"' rest).trans (List.suffix_append ('"' :: body) ('"' :: rest))

/-- Blanks and a character behind them. -/
theorem mark (other : isSpace away = false) (bare : Bare away char) (here : skipSpace text = char :: rest) :
    Passes away ready (ready || separates char) text rest := by
  have spaces : Passes away ready ready text (char :: rest) := here ▸ Passes.skips (Skips.skipSpace other text)
  exact spaces.trans (single bare rest)

end Passes

theorem Outside.append (outside : Outside away ready text) (bare : ∀ char ∈ rest, Bare away char) :
    Outside away ready (text ++ rest) := by
  induction outside with
  | nil => exact (Passes.skips ⟨rest, (List.append_nil rest).symm, bare⟩).outside .nil
  | bare plain _ inductionHypothesis => exact .bare plain inductionHypothesis
  | quoted guarded _ inductionHypothesis =>
      rw [List.cons_append, List.append_assoc, List.cons_append]
      exact .quoted guarded inductionHypothesis

/-! ## The readers of values -/

/-- Every reader passes from its text to what it leaves.  Of a list the mark that
closes it is left as well. -/
structure ReadersPass (fuel : Nat) : Prop where
  value : ∀ {text rest : Text} {value : Written},
    value? fuel text = some (value, rest) → Passes '\x60' true false text rest
  items : ∀ {text rest : Text} {items : List Written},
    items? fuel text = some (items, rest) → Passes '\x60' true false text (']' :: rest)
  members : ∀ {text rest : Text} {members : List (List Piece × Written)},
    members? fuel text = some (members, rest) → Passes '\x60' true false text ('\x7d' :: rest)

namespace ReadersPass

variable {fuel : Nat}

theorem value_succ (below : ReadersPass fuel) {value : Written}
    (read : value? (fuel + 1) text = some (value, rest)) : Passes '\x60' true false text rest := by
  have spaces : ∀ text, Passes '\x60' true true text (skipSpace text) := fun text =>
    Passes.skips (Skips.skipSpace rfl text)
  rcases value?_front read with ⟨after, pieces, quote, found, _⟩ |
    ⟨after, bracket, ⟨closed, _⟩ | ⟨items, found, _⟩⟩ | ⟨after, brace, ⟨closed, _⟩ | ⟨members, found, _⟩⟩ |
    ⟨literal, here, listed⟩ | ⟨number, found, _⟩
  · exact (quote ▸ spaces text).trans (Passes.pieces? found)
  · have opening : Passes '\x60' true true text after := Passes.mark rfl (by decide) bracket
    exact (opening.trans (Passes.mark rfl (by decide) closed)).settle
  · have opening : Passes '\x60' true true text after := Passes.mark rfl (by decide) bracket
    have closing : Passes '\x60' false false (']' :: rest) rest :=
      Passes.skips (Skips.cons (by decide) (Skips.refl _ rest))
    exact ((opening.trans (spaces after)).trans (below.items found)).trans closing
  · have opening : Passes '\x60' true true text after := Passes.mark rfl (by decide) brace
    exact (opening.trans (Passes.mark rfl (by decide) closed)).settle
  · have opening : Passes '\x60' true true text after := Passes.mark rfl (by decide) brace
    have closing : Passes '\x60' false false ('\x7d' :: rest) rest :=
      Passes.skips (Skips.cons (by decide) (Skips.refl _ rest))
    exact ((opening.trans (spaces after)).trans (below.members found)).trans closing
  · exact ((here ▸ spaces text).trans (Passes.skips (Skips.literal listed rest))).settle
  · exact ((spaces text).trans (Passes.skips (Skips.numeral? found))).settle

theorem items_succ (below : ReadersPass fuel) {items : List Written}
    (read : items? (fuel + 1) text = some (items, rest)) : Passes '\x60' true false text (']' :: rest) := by
  obtain ⟨item, others, after, _, first, ends⟩ := items?_cases read
  rcases ends with ⟨behind, comma, more⟩ | ⟨_, closed⟩
  · have separated : Passes '\x60' false true after behind := Passes.mark rfl (by decide) comma
    exact ((below.value first).trans separated).trans (below.items more)
  · have closing : Passes '\x60' false false after (']' :: rest) :=
      closed ▸ Passes.skips (Skips.skipSpace rfl after)
    exact (below.value first).trans closing

theorem members_succ (below : ReadersPass fuel) {members : List (List Piece × Written)}
    (read : members? (fuel + 1) text = some (members, rest)) :
    Passes '\x60' true false text ('\x7d' :: rest) := by
  obtain ⟨name, value, others, after, behind, inner, further, _, quote, named, colon, first, ends⟩ :=
    members?_cases read
  have spaces : Passes '\x60' true true text ('"' :: after) := quote ▸ Passes.skips (Skips.skipSpace rfl text)
  have toValue : Passes '\x60' true true text inner :=
    (spaces.trans (Passes.pieces? named)).trans (Passes.mark rfl (by decide) colon)
  rcases ends with ⟨next, comma, more⟩ | ⟨_, closed⟩
  · have separated : Passes '\x60' false true further next := Passes.mark rfl (by decide) comma
    exact ((toValue.trans (below.value first)).trans separated).trans (below.members more)
  · have closing : Passes '\x60' false false further ('\x7d' :: rest) :=
      closed ▸ Passes.skips (Skips.skipSpace rfl further)
    exact (toValue.trans (below.value first)).trans closing

end ReadersPass

theorem readersPass (fuel : Nat) : ReadersPass fuel := by
  induction fuel with
  | zero =>
      constructor
      · intro text rest value read
        rw [value?] at read
        cases read
      · intro text rest items read
        rw [items?] at read
        cases read
      · intro text rest members read
        rw [members?] at read
        cases read
  | succ fuel below => exact ⟨below.value_succ, below.items_succ, below.members_succ⟩

/-- In a list of texts braces are quoted too. -/
theorem passes_items?_of_texts {fuel : Nat} {items : List Written}
    (read : items? fuel text = some (items, rest)) (texts : ∀ item ∈ items, ∃ pieces, item = .string pieces) :
    Passes '\x7b' true false text (']' :: rest) := by
  induction fuel generalizing text items with
  | zero =>
      rw [items?] at read
      cases read
  | succ fuel inductionHypothesis =>
      obtain ⟨item, others, after, rfl, first, ends⟩ := items?_cases read
      obtain ⟨pieces, rfl⟩ := texts item List.mem_cons_self
      obtain ⟨inner, quote, named⟩ := exists_of_value?_string first
      have spaces : Passes '\x7b' true true text ('"' :: inner) :=
        quote ▸ Passes.skips (Skips.skipSpace rfl text)
      have toEnd := spaces.trans (Passes.pieces? named)
      rcases ends with ⟨behind, comma, more⟩ | ⟨_, closed⟩
      · have separated : Passes '\x7b' false true after behind := Passes.mark rfl (by decide) comma
        have remaining := inductionHypothesis more fun item member => texts item (List.mem_cons_of_mem _ member)
        exact (toEnd.trans separated).trans remaining
      · have closing : Passes '\x7b' false false after (']' :: rest) :=
          closed ▸ Passes.skips (Skips.skipSpace rfl after)
        exact toEnd.trans closing

/-! ## Whole texts -/

theorem outside_of_skipSpace (other : isSpace away = false) (nothing : skipSpace text = []) :
    Outside away ready text := by
  have spaces : Passes away ready ready text [] := nothing ▸ Passes.skips (Skips.skipSpace other text)
  exact spaces.outside .nil

/-- The backticks of a text that reads as a value are quoted. -/
theorem outside_of_ofText? {value : Written} (read : Written.ofText? text = some value) :
    Outside '\x60' true text := by
  obtain ⟨rest, found, nothing⟩ := exists_value?_of_ofText? read
  exact ((readersPass _).value found).outside (outside_of_skipSpace rfl nothing)

/-- So are the opening braces of an array of texts. -/
theorem outside_of_ofText?_texts {items : List Written} (read : Written.ofText? text = some (.array items))
    (texts : ∀ item ∈ items, ∃ pieces, item = .string pieces) : Outside '\x7b' true text := by
  obtain ⟨rest, found, nothing⟩ := exists_value?_of_ofText? read
  have ends : ∀ {ready : Bool}, Outside '\x7b' ready rest := outside_of_skipSpace rfl nothing
  obtain ⟨after, bracket, ⟨closed, _⟩ | list⟩ := exists_of_value?_array found
  · have opening : Passes '\x7b' true true text after := Passes.mark rfl (by decide) bracket
    exact (opening.trans (Passes.mark rfl (by decide) closed)).outside ends
  · have opening : Passes '\x7b' true true text after := Passes.mark rfl (by decide) bracket
    have inner := (opening.trans (Passes.skips (Skips.skipSpace rfl after))).trans
      (passes_items?_of_texts list texts)
    exact inner.outside (.bare (by decide) ends)

/-- An object ends with its closing brace. -/
theorem exists_braces_of_ofText? {text : Text} {members : List (List Piece × Written)}
    (read : Written.ofText? text = some (.object members)) :
    ∃ lead inner trail, text = lead ++ '\x7b' :: (inner ++ '\x7d' :: trail) ∧
      (∀ char ∈ lead, isSpace char = true) ∧ ∀ char ∈ trail, isSpace char = true := by
  obtain ⟨rest, found, nothing⟩ := exists_value?_of_ofText? read
  obtain ⟨after, brace, ends⟩ := exists_of_value?_object found
  have closing : '\x7d' :: rest <:+ after := by
    rcases ends with ⟨closed, _⟩ | list
    · rw [← closed]
      exact List.dropWhile_suffix isSpace
    · exact ((readersPass _).members list).suffix.trans (List.dropWhile_suffix isSpace)
  obtain ⟨inner, rfl⟩ := closing
  refine ⟨text.takeWhile isSpace, inner, rest, ?_, ?_, ?_⟩
  · rw [← brace]
    exact List.takeWhile_append_dropWhile.symm
  · exact fun char member => List.all_eq_true.mp List.all_takeWhile char member
  · exact List.dropWhile_eq_nil_iff.mp nothing

end Json
end FeedDesk
