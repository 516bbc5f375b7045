import StagedLaunch.Text.Words

/-!
# Splitting what was joined

A word that is written in a command line is read back, whatever characters it has, and so are all words of a command line
(`split_join`).
-/

namespace StagedLaunch.Words

/-- A character that needs no quotes has no meaning of its own. -/
theorem plain_of_not_needsQuotes {c : Char} (h : needsQuotes c = false) :
    separates c = false ∧ c ≠ '\'' ∧ c ≠ '"' ∧ c ≠ '\\' ∧ c ≠ '#' := by
  have hnot : ∀ d, d ∈ (['|', '&', ';', '<', '>', '(', ')', '$', '\x60', '\\', '"', '\'', ' ', '\t', '\n', '*', '?', '[',
      '#', '~', '=', '%'] : List Char) → c ≠ d := by
    rintro d hd rfl
    rw [needsQuotes, List.contains_iff_mem.2 hd] at h
    cases h
  refine ⟨?_, hnot _ (by decide), hnot _ (by decide), hnot _ (by decide), hnot _ (by decide)⟩
  simp only [separates, Bool.or_eq_false_iff, beq_eq_false_iff_ne]
  exact ⟨⟨hnot _ (by decide), hnot _ (by decide)⟩, hnot _ (by decide)⟩

/-! ## One word -/

/-- In a word, outside quotes, characters that need no quotes are taken as they are. -/
theorem splitFrom_bare_append {cs : List Char} (hcs : ∀ c ∈ cs, needsQuotes c = false) (word rest : List Char) :
    splitFrom .bare word (cs ++ rest) = splitFrom .bare (cs.reverse ++ word) rest := by
  induction cs generalizing word with
  | nil => rfl
  | cons c cs ih =>
    obtain ⟨hsep, hsingle, hdouble, hescape, -⟩ := plain_of_not_needsQuotes (hcs c (List.mem_cons_self ..))
    have hstep : splitFrom .bare word (c :: (cs ++ rest)) = splitFrom .bare (c :: word) (cs ++ rest) := by
      simp [splitFrom, hsep, hsingle, hdouble, hescape]
    rw [List.cons_append, hstep, ih fun d hd => hcs d (List.mem_cons_of_mem _ hd), List.reverse_cons, List.append_assoc]
    rfl

/-- Between single quotes a character is taken as it is; for a single quote they are left and entered again. -/
theorem splitFrom_single_quoteChar (word : List Char) (c : Char) (rest : List Char) :
    splitFrom .single word (quoteChar c ++ rest) = splitFrom .single (c :: word) rest := by
  by_cases hc : c = '\''
  · subst hc
    rfl
  · simp [quoteChar, hc, splitFrom]

/-- A quoted word is taken up to the quote that ends it. -/
theorem splitFrom_single_quoted (word cs rest : List Char) :
    splitFrom .single word (cs.flatMap quoteChar ++ '\'' :: rest) = splitFrom .bare (cs.reverse ++ word) rest := by
  induction cs generalizing word with
  | nil => rfl
  | cons c cs ih =>
    rw [List.flatMap_cons, List.append_assoc, splitFrom_single_quoteChar, ih, List.reverse_cons, List.append_assoc]
    rfl

/-- A word that was written is read from its beginning to the end of its last character. -/
theorem splitFrom_quote (word : String) (rest : List Char) :
    splitFrom .between [] ((quote word).toList ++ rest) = splitFrom .bare word.toList.reverse rest := by
  unfold quote
  dsimp only
  split
  · rename_i hempty
    rw [List.isEmpty_iff.1 hempty]
    rfl
  · split
    · have hquote : splitFrom .between [] ('\'' :: (word.toList.flatMap quoteChar ++ '\'' :: rest)) =
          splitFrom .single [] (word.toList.flatMap quoteChar ++ '\'' :: rest) := rfl
      rw [String.toList_ofList, List.append_assoc, List.cons_append, List.singleton_append, hquote, splitFrom_single_quoted,
        List.append_nil]
    · rename_i hempty hplain
      obtain ⟨c, cs, hcs⟩ : ∃ c cs, word.toList = c :: cs :=
        List.exists_cons_of_ne_nil fun hnil => hempty (List.isEmpty_iff.2 hnil)
      have hplain' : ∀ d ∈ c :: cs, needsQuotes d = false := by
        intro d hd
        cases hneeds : needsQuotes d with
        | false => rfl
        | true => exact absurd (List.any_eq_true.2 ⟨d, hcs ▸ hd, hneeds⟩) hplain
      obtain ⟨hsep, hsingle, hdouble, hescape, hcomment⟩ := plain_of_not_needsQuotes (hplain' c (List.mem_cons_self ..))
      have hstep : splitFrom .between [] (c :: (cs ++ rest)) = splitFrom .bare [c] (cs ++ rest) := by
        simp [splitFrom, hsep, hsingle, hdouble, hescape, hcomment]
      rw [hcs, List.cons_append, hstep, splitFrom_bare_append fun d hd => hplain' d (List.mem_cons_of_mem _ hd),
        List.reverse_cons]

/-! ## All words -/

/-- The characters of words with a blank between them are read back as the words. -/
theorem splitFrom_intercalate (words : List String) :
    splitFrom .between [] ([' '].intercalate (words.map fun word => (quote word).toList)) = some words := by
  induction words with
  | nil => rfl
  | cons word words ih =>
    cases words with
    | nil =>
      have hword : splitFrom .between [] ((quote word).toList ++ []) = some [word] := by
        rw [splitFrom_quote, splitFrom, List.reverse_reverse, String.ofList_toList]
      rw [List.append_nil] at hword
      rwa [List.map_singleton, List.intercalate_singleton]
    | cons next words =>
      have hblank : ∀ rest, splitFrom .bare word.toList.reverse (' ' :: rest) =
          (splitFrom .between [] rest).map (word :: ·) := by
        intro rest
        simp [splitFrom, separates]
      rw [List.map_cons] at ih
      rw [List.map_cons, List.map_cons, List.intercalate_cons_cons, List.append_assoc, splitFrom_quote, List.singleton_append,
        hblank, ih]
      rfl

/-- Words that are joined to a command line are its words. -/
theorem split_join (words : List String) : split (join words) = some words := by
  have hchars : (join words).toList = [' '].intercalate (words.map fun word => (quote word).toList) := by
    rw [join, String.toList_intercalate, List.map_map]
    rfl
  rw [split, hchars, splitFrom_intercalate]

end StagedLaunch.Words
