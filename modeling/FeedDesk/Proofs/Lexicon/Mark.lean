import FeedDesk.Proofs.Lexicon.Gloss

namespace FeedDesk

open FeedDesk.Language

/-!
# Passes over glosses

A vocabulary can be applied to a gloss as it is to a text, leaving what was
replaced before as it stands.  Nothing is lost by this: the new gloss explains
the same text, and what it says on its right side is exactly what the pass
over the old right side writes.  So the three passes of the lexicon, one after
the other, give one gloss of the question itself.

The pass is a function, and beside it stands the relation of its single steps,
on which the statements about runs are proved by induction.
-/

namespace Vocabulary

open Lexicon

variable {vocabulary : Vocabulary} {matching : Matching}

/-- The pass over a gloss.  Pieces that are replaced already stay, and count
as what they write; `skipped` is the number of pieces that a form found before
still covers. -/
def mark (vocabulary : Vocabulary) (matching : Matching) :
    (skipped : Nat) → (before : Option Char) → Gloss → Gloss
  | _, _, [] => []
  | skipped + 1, before, _ :: gloss => vocabulary.mark matching skipped before gloss
  | 0, _, .replaced form english :: gloss =>
    .replaced form english :: vocabulary.mark matching 0 english.getLast? gloss
  | 0, before, .kept char :: gloss =>
    match vocabulary.found? matching before (char :: Gloss.written gloss) with
    | some (form, english) =>
      .replaced form english ::
        vocabulary.mark matching (form.length - 1) english.getLast? gloss
    | none => .kept char :: vocabulary.mark matching 0 (some char) gloss

/-- The pass over a gloss, step by step: the character written last, the gloss
that comes in and the one that goes out. -/
inductive Marks (vocabulary : Vocabulary) (matching : Matching) : Option Char → Gloss → Gloss → Prop
  | nil (before : Option Char) : Marks vocabulary matching before [] []
  | old (before : Option Char) (form english : Text) {gloss marked : Gloss}
      (rest : Marks vocabulary matching english.getLast? gloss marked) :
      Marks vocabulary matching before (.replaced form english :: gloss)
        (.replaced form english :: marked)
  | kept (before : Option Char) (char : Char) {gloss marked : Gloss}
      (missing : vocabulary.found? matching before (char :: Gloss.written gloss) = none)
      (rest : Marks vocabulary matching (some char) gloss marked) :
      Marks vocabulary matching before (.kept char :: gloss) (.kept char :: marked)
  | new (before : Option Char) (form english : Text) {gloss marked : Gloss}
      (found : vocabulary.found? matching before (form ++ Gloss.written gloss) = some (form, english))
      (rest : Marks vocabulary matching english.getLast? gloss marked) :
      Marks vocabulary matching before (Gloss.ofText form ++ gloss) (.replaced form english :: marked)

theorem mark_append_skipped (vocabulary : Vocabulary) (matching : Matching) (front gloss : Gloss)
    (before : Option Char) :
    vocabulary.mark matching front.length before (front ++ gloss) =
      vocabulary.mark matching 0 before gloss := by
  induction front with
  | nil => rfl
  | cons piece front inductionHypothesis => exact inductionHypothesis

/-- A form that is found at a kept character consists of kept characters. -/
theorem exists_ofText_of_found? (bilingual : vocabulary.Bilingual) {before : Option Char}
    {char : Char} {gloss : Gloss} {form english : Text}
    (sound : Gloss.Bilingual (.kept char :: gloss))
    (found : vocabulary.found? matching before (char :: Gloss.written gloss) = some (form, english)) :
    ∃ others right, form = char :: others ∧ gloss = Gloss.ofText others ++ right := by
  have spelled := bilingual.isForm _ (mem_of_found? found)
  rcases exists_rest_of_found? found with ⟨rest, same, _⟩
  rcases exists_cons_of_isSpelled spelled with ⟨first, others, begins, _⟩
  rcases Gloss.exists_of_written_eq_append sound
    (fun char member => isAsciiLetter_eq_false_of_mem spelled member) same with ⟨right, split, _⟩
  change form = first :: others at begins
  subst begins
  have sameChar : char = first := Piece.kept.inj (List.cons.inj split).1
  exact ⟨others, right, by rw [sameChar], (List.cons.inj split).2⟩

/-- The pass over a gloss proceeds by these steps. -/
theorem marks_mark (bilingual : vocabulary.Bilingual) (before : Option Char) {gloss : Gloss}
    (sound : gloss.Bilingual) :
    Marks vocabulary matching before gloss (vocabulary.mark matching 0 before gloss) := by
  -- A form is passed over as a whole, so the induction is on the length and not on the gloss.
  induction length : gloss.length using Nat.strongRecOn generalizing gloss before with
  | ind count inductionHypothesis =>
      cases gloss with
      | nil => exact .nil before
      | cons piece gloss =>
          rw [List.length_cons] at length
          cases piece with
          | replaced form english =>
              exact .old before form english
                (inductionHypothesis gloss.length (by omega) _ sound.tail rfl)
          | kept char =>
              cases found : vocabulary.found? matching before (char :: Gloss.written gloss) with
              | none =>
                  rw [mark, found]
                  exact .kept before char found
                    (inductionHypothesis gloss.length (by omega) _ sound.tail rfl)
              | some entry =>
                  obtain ⟨form, english⟩ := entry
                  rcases exists_ofText_of_found? bilingual sound found with ⟨others, right, rfl, rfl⟩
                  have shorter : right.length < count := by
                    rw [List.length_append, Gloss.length_ofText] at length
                    omega
                  have rest := inductionHypothesis right.length shorter english.getLast?
                    sound.tail.right rfl
                  have skipped := mark_append_skipped vocabulary matching (Gloss.ofText others) right
                    english.getLast?
                  rw [Gloss.length_ofText] at skipped
                  rw [mark, found]
                  simp only [List.length_cons, Nat.add_sub_cancel, skipped]
                  rw [Gloss.written_append, Gloss.written_ofText] at found
                  exact .new before (char :: others) english found rest

namespace Marks

variable {before : Option Char} {gloss marked : Gloss}

/-- A pass explains the same text. -/
theorem source_eq (marks : Marks vocabulary matching before gloss marked) :
    marked.source = gloss.source := by
  induction marks with
  | nil => rfl
  | old before form english rest inductionHypothesis =>
      rw [Gloss.source_cons, Gloss.source_cons, inductionHypothesis]
  | kept before char missing rest inductionHypothesis =>
      rw [Gloss.source_cons, Gloss.source_cons, inductionHypothesis]
  | new before form english found rest inductionHypothesis =>
      rw [Gloss.source_cons, Gloss.source_append, Gloss.source_ofText, inductionHypothesis, Piece.source]

theorem bilingual (marks : Marks vocabulary matching before gloss marked)
    (tables : vocabulary.Bilingual) (sound : gloss.Bilingual) : marked.Bilingual := by
  induction marks with
  | nil => exact Gloss.bilingual_nil
  | old before form english rest inductionHypothesis =>
      intro other term member
      rcases List.mem_cons.mp member with same | later
      · exact sound other term (same ▸ List.mem_cons_self)
      · exact inductionHypothesis sound.tail other term later
  | kept before char missing rest inductionHypothesis =>
      intro other term member
      rcases List.mem_cons.mp member with impossible | later
      · cases impossible
      · exact inductionHypothesis sound.tail other term later
  | new before form english found rest inductionHypothesis =>
      intro other term member
      rcases List.mem_cons.mp member with same | later
      · cases same
        exact ⟨tables.isForm _ (mem_of_found? found), tables.isTerm _ (mem_of_found? found)⟩
      · exact inductionHypothesis sound.right other term later

/-- Every replacement was made before or comes from the vocabulary. -/
theorem mem_or_listed (marks : Marks vocabulary matching before gloss marked) {form english : Text}
    (member : Piece.replaced form english ∈ marked) :
    Piece.replaced form english ∈ gloss ∨ (form, english) ∈ vocabulary.longestFirst := by
  induction marks with
  | nil => cases member
  | old before other term rest inductionHypothesis =>
      rcases List.mem_cons.mp member with same | later
      · exact Or.inl (same ▸ List.mem_cons_self)
      · exact (inductionHypothesis later).imp_left (List.mem_cons_of_mem _)
  | kept before char missing rest inductionHypothesis =>
      rcases List.mem_cons.mp member with impossible | later
      · cases impossible
      · exact (inductionHypothesis later).imp_left (List.mem_cons_of_mem _)
  | new before other term found rest inductionHypothesis =>
      rcases List.mem_cons.mp member with same | later
      · cases same
        exact Or.inr (mem_of_found? found)
      · exact (inductionHypothesis later).imp_left (List.mem_append_right _)

end Marks

/-- Text without Arabic letters is copied. -/
theorem scan_append_of_no_letter (tables : vocabulary.Bilingual) {front : Text} (rest : Text)
    (free : ∀ char ∈ front, isArabicLetter char = false) (before : Option Char) :
    vocabulary.scan matching before (front ++ rest) =
      front ++ vocabulary.scan matching (front.getLast?.or before) rest := by
  induction front generalizing before with
  | nil => rfl
  | cons char front inductionHypothesis =>
      have missing : vocabulary.found? matching before (char :: (front ++ rest)) = none :=
        tables.found?_eq_none (free char List.mem_cons_self)
      rw [List.cons_append, scan_cons_of_found?_eq_none tables.formful missing,
        inductionHypothesis (fun other member => free other (List.mem_cons_of_mem char member)),
        List.cons_append]
      cases front with
      | nil => rfl
      | cons next front => rw [List.getLast?_cons_cons]; rfl

/-- The pass over a gloss writes what the pass over its right side writes. -/
theorem Marks.scan_written (tables : vocabulary.Bilingual) {before : Option Char} {gloss marked : Gloss}
    (marks : Marks vocabulary matching before gloss marked) (sound : gloss.Bilingual) :
    vocabulary.scan matching before gloss.written = marked.written := by
  induction marks with
  | nil => rfl
  | old before form english rest inductionHypothesis =>
      have spelled := (sound form english List.mem_cons_self).2
      rcases exists_concat_of_isSpelled spelled with ⟨front, char, ends, _⟩
      rw [Gloss.written_cons, Gloss.written_cons, ← inductionHypothesis sound.tail, Piece.written,
        scan_append_of_no_letter tables _ (fun char member => isArabicLetter_eq_false_of_mem spelled member),
        ends, List.getLast?_concat]
      rfl
  | kept before char missing rest inductionHypothesis =>
      rw [Gloss.written_cons, Gloss.written_cons, ← inductionHypothesis sound.tail, Piece.written,
        List.singleton_append, List.singleton_append, scan_cons_of_found?_eq_none tables.formful missing]
  | new before form english found rest inductionHypothesis =>
      rw [Gloss.written_append, Gloss.written_ofText, Gloss.written_cons,
        ← inductionHypothesis sound.right, scan_append_of_found? tables.formful found, Piece.written]

/-! ## Parts of a run

What a run leaves behind can be cut anywhere; the second part is then left
behind by a run of its own, which starts behind the character written last. -/

namespace Marks

variable {before : Option Char} {gloss left right : Gloss}

theorem exists_of_append (tables : vocabulary.Bilingual) (sound : gloss.Bilingual)
    (marks : Marks vocabulary matching before gloss (left ++ right)) :
    ∃ front rest, gloss = front ++ rest ∧ front.source = left.source ∧
      Marks vocabulary matching (left.written.getLast?.or before) rest right := by
  induction left generalizing before gloss with
  | nil => exact ⟨[], gloss, rfl, rfl, marks⟩
  | cons piece left inductionHypothesis =>
      have moved : ∀ {english : Text}, isTerm english = true →
          (Gloss.written left).getLast?.or english.getLast? =
            (english ++ Gloss.written left).getLast?.or before := by
        intro english spelled
        rcases exists_concat_of_isSpelled spelled with ⟨front, char, rfl, _⟩
        rw [List.getLast?_concat, List.getLast?_append, List.getLast?_concat, Option.or_assoc,
          Option.some_or]
      cases marks with
      | old _ form english rest =>
          rcases inductionHypothesis sound.tail rest with ⟨front, others, rfl, source, remains⟩
          refine ⟨.replaced form english :: front, others, rfl, ?_, ?_⟩
          · rw [Gloss.source_cons, Gloss.source_cons, source]
          · rw [Gloss.written_cons, Piece.written,
              ← moved (sound form english List.mem_cons_self).2]
            exact remains
      | kept _ char missing rest =>
          rcases inductionHypothesis sound.tail rest with ⟨front, others, rfl, source, remains⟩
          refine ⟨.kept char :: front, others, rfl, ?_, ?_⟩
          · rw [Gloss.source_cons, Gloss.source_cons, source]
          · rw [Gloss.written_cons, Piece.written, List.getLast?_append, Option.or_assoc,
              List.getLast?_singleton, Option.some_or]
            exact remains
      | new _ form english found rest =>
          rcases inductionHypothesis sound.right rest with ⟨front, others, rfl, source, remains⟩
          refine ⟨Gloss.ofText form ++ front, others, (List.append_assoc _ _ _).symm, ?_, ?_⟩
          · rw [Gloss.source_append, Gloss.source_ofText, Gloss.source_cons, source, Piece.source]
          · rw [Gloss.written_cons, Piece.written, ← moved (tables.isTerm _ (mem_of_found? found))]
            exact remains

theorem exists_of_kept_cons {char : Char} {marked : Gloss}
    (marks : Marks vocabulary matching before gloss (.kept char :: marked)) :
    ∃ rest, gloss = .kept char :: rest ∧
      vocabulary.found? matching before (char :: Gloss.written rest) = none ∧
      Marks vocabulary matching (some char) rest marked := by
  cases marks with
  | kept _ _ missing rest => exact ⟨_, rfl, missing, rest⟩

/-- What a run leaves replaced was replaced before, or it was found there. -/
theorem exists_of_replaced_cons {form english : Text} {marked : Gloss}
    (marks : Marks vocabulary matching before gloss (.replaced form english :: marked)) :
    (∃ rest, gloss = .replaced form english :: rest) ∨
      ∃ rest, gloss = Gloss.ofText form ++ rest ∧
        vocabulary.found? matching before (form ++ Gloss.written rest) = some (form, english) ∧
        Marks vocabulary matching english.getLast? rest marked := by
  cases marks with
  | old _ _ _ rest => exact Or.inl ⟨_, rfl⟩
  | new _ _ _ found rest => exact Or.inr ⟨_, rfl, found, rest⟩

/-- What a run leaves kept was kept before. -/
theorem exists_of_ofText_append {run : Text}
    (marks : Marks vocabulary matching before gloss (Gloss.ofText run ++ right)) :
    ∃ rest, gloss = Gloss.ofText run ++ rest ∧
      Marks vocabulary matching (run.getLast?.or before) rest right := by
  induction run generalizing before gloss with
  | nil => exact ⟨gloss, rfl, marks⟩
  | cons char run inductionHypothesis =>
      rcases exists_of_kept_cons marks with ⟨rest, rfl, _, later⟩
      rcases inductionHypothesis later with ⟨others, rfl, remains⟩
      refine ⟨others, rfl, ?_⟩
      cases run with
      | nil => exact remains
      | cons next run =>
          rw [List.getLast?_cons_cons]
          rw [List.getLast?_cons, Option.some_or] at remains ⊢
          exact remains

theorem ofText_isInfix (tables : vocabulary.Bilingual) (sound : gloss.Bilingual) {marked : Gloss}
    (marks : Marks vocabulary matching before gloss marked) {run : Text}
    (kept : Gloss.ofText run <:+: marked) : Gloss.ofText run <:+: gloss := by
  rcases kept with ⟨left, right, rfl⟩
  rw [List.append_assoc] at marks
  rcases exists_of_append tables sound marks with ⟨front, rest, rfl, _, remains⟩
  rcases exists_of_ofText_append remains with ⟨others, rfl, _⟩
  exact ⟨front, others, List.append_assoc _ _ _⟩

/-- Behind an Arabic letter nothing is replaced when whole words count, so
what follows there is the same before and after. -/
theorem allows_head (sound : gloss.Bilingual) {marked : Gloss}
    (marks : Marks vocabulary matching before gloss marked)
    (letter : before.any isArabicLetter = true) (free : matching.Allows marked.written.head?) :
    matching.Allows gloss.written.head? := by
  cases marks with
  | nil => exact free
  | old _ form english rest =>
      rcases exists_cons_of_isSpelled (sound form english List.mem_cons_self).2 with ⟨char, others, rfl, _⟩
      exact free
  | kept _ char missing rest => exact free
  | new _ form english found rest =>
      intro whole
      have impossible := allows_of_found? found whole
      rw [letter] at impossible
      cases impossible

/-- No form is left where it could have been replaced. -/
theorem not_form (tables : vocabulary.Bilingual) (sound : gloss.Bilingual) {form english : Text}
    (marks : Marks vocabulary matching before gloss (left ++ Gloss.ofText form ++ right))
    (listed : (form, english) ∈ vocabulary.longestFirst)
    (freeBefore : matching.Allows (left.written.getLast?.or before))
    (freeAfter : matching.Allows right.written.head?) : False := by
  rw [List.append_assoc] at marks
  rcases exists_of_append tables sound marks with ⟨front, rest, rfl, _, remains⟩
  rcases exists_of_ofText_append remains with ⟨others, rfl, behind⟩
  have spelled := tables.isForm _ listed
  rcases exists_cons_of_isSpelled spelled with ⟨char, tail, begins, _⟩
  rcases exists_concat_of_isSpelled spelled with ⟨init, last, ends, letter⟩
  have fit : fits matching (form ++ others.written) (form, english) = true := by
    refine fits_iff.mpr ⟨others.written, rfl, ?_⟩
    refine allows_head sound.right.right behind ?_ freeAfter
    change form = init ++ [last] at ends
    rw [ends, List.getLast?_concat, Option.some_or]
    exact letter
  change form = char :: tail at begins
  subst begins
  rcases exists_of_kept_cons remains with ⟨rest, split, missing, _⟩
  have tailEq : rest = Gloss.ofText tail ++ others := (List.cons.inj split).2.symm
  rw [tailEq, Gloss.written_append, Gloss.written_ofText, ← List.cons_append] at missing
  rw [not_fits_of_found?_eq_none missing freeBefore listed] at fit
  cases fit

end Marks

/-- A pass that finds nothing anywhere changes nothing. -/
theorem scan_eq_self (tables : vocabulary.Bilingual) {before : Option Char} {text : Text}
    (nothing : ∀ front char rest, text = front ++ char :: rest →
      vocabulary.found? matching (front.getLast?.or before) (char :: rest) = none) :
    vocabulary.scan matching before text = text := by
  induction text generalizing before with
  | nil => rfl
  | cons char text inductionHypothesis =>
      have missing : vocabulary.found? matching before (char :: text) = none := nothing [] char text rfl
      rw [scan_cons_of_found?_eq_none tables.formful missing, inductionHypothesis]
      intro front other rest split
      have missing := nothing (char :: front) other rest (by rw [split, List.cons_append])
      cases front with
      | nil => exact missing
      | cons next front =>
          rw [List.getLast?_cons_cons] at missing
          rw [List.getLast?_cons, Option.some_or] at missing ⊢
          exact missing

end Vocabulary
end FeedDesk
