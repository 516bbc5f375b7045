import StagedLaunch.Machine.FileTree

/-!
# Where paths lead

A path leads to a place, part by part (`Path.follow`, `Path.place`). Only the parts that are neither empty nor a dot move on
(`Path.moves`), so paths with the same components lead to the same place (`Path.place_eq_of_same`), and a file in a directory is
one step further than the directory (`Path.place_join`). The path without its last component has the moves but the last, starts
where the path starts, and ends in a move if it has any (`Path.IsParent`).
-/

namespace StagedLaunch.Path

/-- Where the parts of a path lead from a directory. -/
def follow (dir : Place) : List String → Place
  | [] => dir
  | name :: rest =>
    if name == "" || name == "." then follow dir rest
    else if name == ".." then follow dir.dropLast rest
    else follow (dir ++ [name]) rest

/-- Where a path starts. -/
def start (cwd : Place) (path : String) : Place := if isAbsolute path then [] else cwd

/-- Where a path leads from a working directory. -/
def place (cwd : Place) (path : String) : Place := follow (if isAbsolute path then [] else cwd) (parts path)

/-! ## Parts -/

/-- What stands before a slash and what stands after it. -/
theorem parts_slash (front back : List Char) :
    parts (String.ofList (front ++ '/' :: back)) = parts (String.ofList front) ++ parts (String.ofList back) := by
  simp only [parts, String.toList_ofList, List.splitOn_append_cons_self, List.map_append]

/-- A name has no slash and is not skipped when a path is followed. -/
structure IsName (name : String) : Prop where
  /-- No slash is in it. -/
  slash : '/' ∉ name.toList
  /-- It is not empty. -/
  empty : name ≠ ""
  /-- It does not stand for the same directory. -/
  here : name ≠ "."
  /-- It does not stand for the directory above. -/
  above : name ≠ ".."

theorem IsName.parts_eq {name : String} (h : IsName name) : parts name = [name] := by
  rw [parts, List.splitOn_eq_singleton h.slash, List.map_singleton, String.ofList_toList]

theorem IsName.not_absolute {name : String} (h : IsName name) : isAbsolute name = false := by
  unfold isAbsolute
  cases hname : name.toList with
  | nil => rfl
  | cons c rest =>
    have hslash : c ≠ '/' := fun hc => h.slash (by rw [hname, hc]; exact List.mem_cons_self ..)
    simp [hslash]

/-! ## Following a path -/

theorem follow_append (dir : Place) (front back : List String) :
    follow dir (front ++ back) = follow (follow dir front) back := by
  fun_induction follow dir front with
  | case1 dir => rfl
  | case2 dir name rest hskip ih => rw [List.cons_append, follow, if_pos hskip, ih]
  | case3 dir name rest hskip hup ih => rw [List.cons_append, follow, if_neg hskip, if_pos hup, ih]
  | case4 dir name rest hskip hup ih => rw [List.cons_append, follow, if_neg hskip, if_neg hup, ih]

theorem IsName.follow_eq {name : String} (h : IsName name) (dir : Place) : follow dir [name] = dir ++ [name] := by
  simp [follow, h.empty, h.here, h.above]

/-- A slash at the end of a path leads nowhere. -/
theorem follow_slash (start : Place) (front : List Char) :
    follow start (parts (String.ofList (front ++ ['/']))) = follow start (parts (String.ofList front)) := by
  rw [parts_slash, follow_append]
  rfl

/-- What follows a slash does not make a path start at the root. -/
theorem isAbsolute_slash (front back back' : List Char) :
    isAbsolute (String.ofList (front ++ '/' :: back)) = isAbsolute (String.ofList (front ++ '/' :: back')) := by
  simp only [isAbsolute, String.toList_ofList]
  cases front <;> rfl

/-- A slash behind something does not make a path start at the root. -/
theorem isAbsolute_append {front : List Char} (h : front ≠ []) (back : List Char) :
    isAbsolute (String.ofList (front ++ back)) = isAbsolute (String.ofList front) := by
  obtain ⟨c, front, rfl⟩ := List.exists_cons_of_ne_nil h
  simp only [isAbsolute, String.toList_ofList, List.cons_append, List.head?_cons]

/-- A file in a directory is one step further than the directory, however the directory is written. -/
theorem place_join {name : String} (h : IsName name) (cwd : Place) (dir : String) :
    place cwd (join dir name) = place cwd dir ++ [name] := by
  have hname : parts (String.ofList name.toList) = [name] := by rw [String.ofList_toList, h.parts_eq]
  have hdir : String.ofList dir.toList = dir := String.ofList_toList
  unfold place join
  rw [h.not_absolute, Bool.false_or]
  split
  · rename_i hempty
    obtain rfl : dir = "" := String.isEmpty_iff.1 hempty
    rw [h.not_absolute, h.parts_eq]
    exact h.follow_eq _
  · rename_i hempty
    split
    · rename_i hslash
      obtain ⟨front, hfront⟩ := List.getLast?_eq_some_iff.1 (eq_of_beq hslash)
      have hjoin : dir ++ name = String.ofList (front ++ '/' :: name.toList) := by
        rw [← String.toList_inj, String.toList_append, hfront, String.toList_ofList, List.append_assoc, List.singleton_append]
      rw [hjoin, parts_slash, hname, follow_append, h.follow_eq, isAbsolute_slash front name.toList [], ← follow_slash, ← hfront,
        hdir]
    · have hjoin : dir ++ "/" ++ name = String.ofList (dir.toList ++ '/' :: name.toList) := by
        simp [← String.toList_inj]
      have hne : dir.toList ≠ [] := fun hnil => hempty (String.isEmpty_iff.2 (String.toList_eq_nil_iff.1 hnil))
      rw [hjoin, parts_slash, hname, follow_append, h.follow_eq, isAbsolute_append hne, hdir]

/-! ## Parts that move on -/

/-- A part of a path that leads somewhere else: it is neither empty nor a dot. -/
def isMove (name : String) : Bool := name != "" && name != "."

/-- The parts of a path that lead somewhere else. -/
def moves (p : String) : List String := (parts p).filter isMove

theorem isMove_eq_false_iff {name : String} : isMove name = false ↔ (name == "" || name == ".") = true := by
  simp [isMove, ← Bool.not_eq_true, ← not_or, Decidable.not_not]

theorem isMove_eq_true_iff {name : String} : isMove name = true ↔ ¬(name == "" || name == ".") = true := by
  rw [← isMove_eq_false_iff, Bool.not_eq_false]

/-- Parts that do not move on make no difference to where a path leads. -/
theorem follow_filter (dir : Place) (names : List String) : follow dir (names.filter isMove) = follow dir names := by
  fun_induction follow dir names with
  | case1 dir => rfl
  | case2 dir name rest hskip ih =>
    rw [List.filter_cons_of_neg (by rw [isMove_eq_false_iff.2 hskip]; simp), ih]
  | case3 dir name rest hskip hup ih =>
    rw [List.filter_cons_of_pos (isMove_eq_true_iff.2 hskip), follow, if_neg hskip, if_pos hup, ih]
  | case4 dir name rest hskip hup ih =>
    rw [List.filter_cons_of_pos (isMove_eq_true_iff.2 hskip), follow, if_neg hskip, if_neg hup, ih]

theorem place_eq_follow_moves (cwd : Place) (p : String) : place cwd p = follow (start cwd p) (moves p) :=
  (follow_filter ..).symm

/-- The components of a path have its moves. -/
theorem filter_components (p : String) : (components p).filter isMove = moves p := by
  have hparts : ((parts p).filter (· != "")).filter isMove = moves p := by
    rw [List.filter_filter, moves]
    refine List.filter_congr fun name _ => ?_
    unfold isMove
    cases name != "" <;> simp
  have hrest (rest : List String) : (rest.filter (· != ".")).filter isMove = rest.filter isMove := by
    rw [List.filter_filter]
    refine List.filter_congr fun name _ => ?_
    unfold isMove
    cases name != "." <;> simp
  rw [← hparts]
  unfold components
  split
  · rename_i hnone
    rw [hnone]
  · rename_i first rest hfirst
    rw [hfirst]
    dsimp only
    split
    · rename_i hdot
      have hname : isMove first = false := by
        unfold isMove
        rw [Bool.and_eq_true] at hdot
        simp [eq_of_beq hdot.1]
      rw [hrest, List.filter_cons_of_neg (by simp [hname])]
    · rw [List.filter_cons, List.filter_cons, hrest]

/-- Two paths are the same when both start at the root or neither does, and they have the same components. -/
def Same (p q : String) : Prop := isAbsolute p = isAbsolute q ∧ components p = components q

instance (p q : String) : Decidable (Same p q) := inferInstanceAs (Decidable (_ ∧ _))

/-- Paths that are the same lead to the same place. -/
theorem place_eq_of_same {p q : String} (h : Same p q) (cwd : Place) : place cwd p = place cwd q := by
  obtain ⟨habsolute, hcomponents⟩ := h
  have hmoves : moves p = moves q := by rw [← filter_components, ← filter_components, hcomponents]
  rw [place_eq_follow_moves, place_eq_follow_moves, hmoves]
  unfold start
  rw [habsolute]

/-! ## The path without its last component -/

/-- The word at the end of a path, given backwards, goes up to the last slash. -/
theorem dropWhile_cases (back : List Char) :
    ('/' ∉ back ∧ back.dropWhile (· != '/') = []) ∨
      ∃ word rest, '/' ∉ word ∧ back = word ++ '/' :: rest ∧ back.dropWhile (· != '/') = '/' :: rest := by
  induction back with
  | nil => exact .inl ⟨by simp, rfl⟩
  | cons c back ih =>
    by_cases hc : c = '/'
    · subst hc
      exact .inr ⟨[], back, by simp, rfl, rfl⟩
    · have hdrop : (c :: back).dropWhile (· != '/') = back.dropWhile (· != '/') :=
        List.dropWhile_cons_of_pos (by simpa using hc)
      rw [hdrop]
      rcases ih with ⟨hslash, hnil⟩ | ⟨word, rest, hslash, rfl, hrest⟩
      · exact .inl ⟨by simpa [Ne.symm hc] using hslash, hnil⟩
      · exact .inr ⟨c :: word, rest, by simpa [Ne.symm hc] using hslash, rfl, hrest⟩

/-- A word without a slash is the only part of a path. -/
theorem parts_word {word : List Char} (h : '/' ∉ word) : parts (String.ofList word) = [String.ofList word] := by
  rw [parts, String.toList_ofList, List.splitOn_eq_singleton h]
  rfl

/-- A path, given backwards, has the parts before its last slash and the word after it. -/
theorem parts_reverse {word : List Char} (h : '/' ∉ word) (rest : List Char) :
    parts (String.ofList (word ++ '/' :: rest).reverse) = parts (String.ofList rest.reverse) ++ [String.ofList word.reverse] := by
  have hword : '/' ∉ word.reverse := by rwa [List.mem_reverse]
  rw [List.reverse_append, List.reverse_cons, List.append_assoc, List.singleton_append, parts_slash, parts_word hword]

/-- A slash at the end of a path does not move on. -/
theorem moves_slash (rest : List Char) : moves (String.ofList ('/' :: rest).reverse) = moves (String.ofList rest.reverse) := by
  rw [moves, ← List.nil_append ('/' :: rest), parts_reverse List.not_mem_nil, List.filter_append]
  exact List.append_nil _

/-- A path that has moves ends in one. -/
def EndsInMove (p : String) : Prop := moves p ≠ [] → ∀ front last, parts p = front ++ [last] → isMove last = true

/-- Slashes at the end of a path, and dots after slashes, do not move on. -/
theorem moves_dropSeparators (back : List Char) :
    moves (String.ofList (dropSeparators back).reverse) = moves (String.ofList back.reverse) := by
  fun_induction dropSeparators back with
  | case1 rest ih => rw [ih, moves_slash]
  | case2 rest ih =>
    have hdot : moves (String.ofList (['.'] ++ '/' :: rest).reverse) = moves (String.ofList rest.reverse) := by
      rw [moves, parts_reverse (by decide), List.filter_append]
      exact List.append_nil _
    rw [ih, moves_slash, ← hdot]
    rfl
  | case3 cs => rfl

/-- What is left of a path without its separators at the end starts as the path does, unless nothing is left. -/
theorem isAbsolute_dropSeparators {back : List Char} (h : dropSeparators back ≠ []) :
    isAbsolute (String.ofList (dropSeparators back).reverse) = isAbsolute (String.ofList back.reverse) := by
  fun_induction dropSeparators back with
  | case1 rest ih =>
    have hne : rest.reverse ≠ [] := by
      intro hnil
      rw [List.reverse_eq_nil_iff] at hnil
      subst hnil
      exact h (by simp [dropSeparators])
    rw [ih h, List.reverse_cons, isAbsolute_append hne]
  | case2 rest ih => rw [ih h, List.reverse_cons (a := '.'), isAbsolute_append (by simp)]
  | case3 cs => rfl

theorem dropSeparators_suffix (back : List Char) : dropSeparators back <:+ back := by
  fun_induction dropSeparators back with
  | case1 rest ih => exact ih.trans (List.suffix_cons ..)
  | case2 rest ih => exact ih.trans (List.suffix_cons ..)
  | case3 cs => exact List.suffix_refl _

/-- Without its separators at the end a path ends in a move. -/
theorem endsInMove_dropSeparators (back : List Char) : EndsInMove (String.ofList (dropSeparators back).reverse) := by
  fun_induction dropSeparators back with
  | case1 rest ih => exact ih
  | case2 rest ih => exact ih
  | case3 cs hslash hdot =>
    intro hmoves front last hparts
    rcases dropWhile_cases cs with ⟨hword, -⟩ | ⟨word, rest, hword, rfl, -⟩
    · have hreverse : '/' ∉ cs.reverse := by rwa [List.mem_reverse]
      have hsingle := parts_word hreverse
      rw [moves, hsingle] at hmoves
      rw [hsingle, ← List.nil_append [String.ofList cs.reverse]] at hparts
      obtain rfl : String.ofList cs.reverse = last := List.singleton_inj.1 (List.append_inj' hparts rfl).2
      by_cases hmove : isMove (String.ofList cs.reverse) = true
      · exact hmove
      · exact absurd (List.filter_cons_of_neg hmove) hmoves
    · rw [parts_reverse hword] at hparts
      obtain rfl : String.ofList word.reverse = last := List.singleton_inj.1 (List.append_inj' hparts rfl).2
      -- the last word is no separator, or it would have been dropped
      rw [isMove_eq_true_iff, Bool.or_eq_true, beq_iff_eq, beq_iff_eq, ← String.toList_inj, ← String.toList_inj,
        String.toList_ofList]
      rintro (hnil | hsingle)
      · obtain rfl : word = [] := List.reverse_eq_nil_iff.1 hnil
        exact hslash rest rfl
      · obtain rfl : word = ['.'] := by rw [← List.reverse_reverse word, hsingle]; rfl
        exact hdot rest rfl

/-- Without its last word a path that ends in a move has the moves but the last. -/
theorem moves_dropWhile {back : List Char} (h : EndsInMove (String.ofList back.reverse)) :
    moves (String.ofList (back.dropWhile (· != '/')).reverse) = (moves (String.ofList back.reverse)).dropLast := by
  rcases dropWhile_cases back with ⟨hword, hnil⟩ | ⟨word, rest, hword, rfl, hrest⟩
  · have hreverse : '/' ∉ back.reverse := by rwa [List.mem_reverse]
    have hparts := parts_word hreverse
    rw [hnil, moves, moves, hparts, List.filter_cons]
    split
    · rfl
    · rfl
  · have hparts := parts_reverse hword rest
    have hmoves : moves (String.ofList (word ++ '/' :: rest).reverse) =
        moves (String.ofList rest.reverse) ++ [String.ofList word.reverse].filter isMove := by
      rw [moves, hparts, List.filter_append]
      rfl
    rw [hrest, moves_slash]
    by_cases hsome : moves (String.ofList (word ++ '/' :: rest).reverse) = []
    · rw [hsome]
      rw [hmoves, List.append_eq_nil_iff] at hsome
      exact hsome.1
    · rw [hmoves, List.filter_cons_of_pos (h hsome _ _ hparts), List.filter_nil, List.dropLast_concat]

/-- What a path says of the path above it. -/
structure IsParent (q p : String) : Prop where
  /-- It has the moves but the last. -/
  moves_eq : moves q = (moves p).dropLast
  /-- It starts where the path starts. -/
  isAbsolute_eq : isAbsolute q = isAbsolute p
  /-- It is a beginning of the path. -/
  beginning : q.toList <+: p.toList
  /-- It ends in a move if it has any. -/
  endsInMove : EndsInMove q

theorem isParent_of_parent? {p q : String} (h : parent? p = some q) : IsParent q p := by
  have hp : String.ofList p.toList.reverse.reverse = p := by rw [List.reverse_reverse, String.ofList_toList]
  have hmoves := moves_dropSeparators p.toList.reverse
  have hends := endsInMove_dropSeparators p.toList.reverse
  have habsolute (hne : dropSeparators p.toList.reverse ≠ []) := isAbsolute_dropSeparators hne
  have hsuffix := dropSeparators_suffix p.toList.reverse
  rw [hp] at hmoves habsolute
  unfold parent? at h
  split at h
  · cases h
  · dsimp only at h
    generalize dropSeparators p.toList.reverse = back at h hmoves hends habsolute hsuffix
    have hfront := (moves_dropSeparators (back.dropWhile (· != '/'))).trans (moves_dropWhile hends)
    rw [hmoves] at hfront
    split at h
    · -- nothing is left in front of the last component
      rename_i hempty
      rw [List.isEmpty_iff.1 hempty] at hfront
      cases h
      split
      · rename_i hroot
        obtain ⟨rest, hrest⟩ := List.head?_eq_some_iff.1 (eq_of_beq hroot)
        refine ⟨hfront, hroot.symm, ?_, fun hsome => absurd (by decide +kernel) hsome⟩
        rw [hrest]
        exact ⟨rest, rfl⟩
      · rename_i hrelative
        exact ⟨hfront, (Bool.eq_false_iff.2 hrelative).symm, List.nil_prefix, fun hsome => absurd rfl hsome⟩
    · rename_i hsome
      cases h
      have hne : dropSeparators (back.dropWhile (· != '/')) ≠ [] := by simpa using hsome
      have hdrop : back.dropWhile (· != '/') ≠ [] := by
        intro hnil
        rw [hnil] at hne
        exact hne (by simp [dropSeparators])
      have hback : back ≠ [] := by
        rintro rfl
        exact hdrop rfl
      have hfrontSuffix := dropSeparators_suffix (back.dropWhile (· != '/'))
      refine ⟨hfront, ?_, ?_, endsInMove_dropSeparators _⟩
      · rw [isAbsolute_dropSeparators hne, ← habsolute hback]
        have hsplit : back.reverse = (back.dropWhile (· != '/')).reverse ++ (back.takeWhile (· != '/')).reverse := by
          rw [← List.reverse_append, List.takeWhile_append_dropWhile]
        rw [hsplit, isAbsolute_append (by simpa using hdrop)]
      · rw [String.toList_ofList, ← List.reverse_reverse p.toList, List.reverse_prefix]
        exact (hfrontSuffix.trans (List.dropWhile_suffix _)).trans hsuffix

/-- The path above one that moves on. -/
theorem parent?_of_moves {p : String} (h : moves p ≠ []) :
    parent? p =
      if (dropSeparators ((dropSeparators p.toList.reverse).dropWhile (· != '/'))).isEmpty then
        some (if isAbsolute p then "/" else "")
      else some (String.ofList (dropSeparators ((dropSeparators p.toList.reverse).dropWhile (· != '/'))).reverse) := by
  unfold parent?
  split
  · rename_i hnone
    rw [← filter_components, hnone] at h
    exact absurd rfl h
  · rfl

/-- A path that moves on has a path above it. -/
theorem exists_isParent {p : String} (h : moves p ≠ []) : ∃ q, parent? p = some q ∧ IsParent q p := by
  cases hparent : parent? p with
  | some q => exact ⟨q, rfl, isParent_of_parent? hparent⟩
  | none =>
    rw [parent?_of_moves h] at hparent
    split at hparent
    · cases hparent
    · cases hparent

/-- A path has no more moves than characters. -/
theorem length_moves_le (p : String) : (moves p).length ≤ p.length := by
  generalize hn : p.length = n
  induction n using Nat.strongRecOn generalizing p with
  | ind n ih =>
    by_cases hmoves : moves p = []
    · rw [hmoves]
      exact Nat.zero_le n
    · obtain ⟨q, -, hq⟩ := exists_isParent hmoves
      have hlength : (moves q).length + 1 = (moves p).length := by
        rw [hq.moves_eq, List.length_dropLast]
        have := List.length_pos_iff.2 hmoves
        omega
      have hlt : q.length < p.length := by
        have hle := hq.beginning.length_le
        rw [String.length_toList, String.length_toList] at hle
        refine Nat.lt_of_le_of_ne hle fun heq => ?_
        have hsame : q = p := by
          rw [← String.toList_inj]
          exact hq.beginning.eq_of_length (by rw [String.length_toList, String.length_toList, heq])
        rw [hsame] at hlength
        omega
      have := ih q.length (hn ▸ hlt) q rfl
      omega

theorem IsParent.moves_dropLast {q path : String} (h : IsParent q path) {names : List String} {name : String}
    (hmoves : moves path = names ++ [name]) : moves q = names := by
  rw [h.moves_eq, hmoves, List.dropLast_concat]

theorem IsParent.start_eq {q path : String} (h : IsParent q path) (cwd : Place) : start cwd q = start cwd path := by
  unfold start
  rw [h.isAbsolute_eq]

theorem IsParent.place_eq {q path : String} (h : IsParent q path) {names : List String} {name : String}
    (hmoves : moves path = names ++ [name]) (cwd : Place) :
    place cwd q = follow (start cwd path) names := by
  rw [place_eq_follow_moves, h.moves_dropLast hmoves, h.start_eq]

theorem ne_empty_of_moves {path : String} {names : List String} {name : String} (hmoves : moves path = names ++ [name]) :
    path ≠ "" := by
  rintro rfl
  have hnone : moves "" = [] := rfl
  rw [hnone] at hmoves
  simp at hmoves

/-- A path that ends in a move has that move as its last part. -/
theorem exists_parts {path : String} (hends : EndsInMove path) {names : List String} {name : String}
    (hmoves : moves path = names ++ [name]) :
    ∃ front, parts path = front ++ [name] ∧ front.filter isMove = names ∧ isMove name = true := by
  have hsome : moves path ≠ [] := by
    rw [hmoves]
    simp
  rcases List.eq_nil_or_concat (parts path) with hnil | ⟨front, last, hparts⟩
  · exact absurd (by rw [moves, hnil, List.filter_nil]) hsome
  · rw [List.concat_eq_append] at hparts
    have hlast := hends hsome front last hparts
    rw [moves, hparts, List.filter_append, List.filter_cons_of_pos hlast, List.filter_nil] at hmoves
    obtain ⟨hfront, hname⟩ := List.append_inj' hmoves rfl
    obtain rfl := List.singleton_inj.1 hname
    exact ⟨front, hparts, hfront, hlast⟩

/-! ## Files in a directory -/

/-- A path names a file in the directory of another path. -/
structure IsIn (path parent name : String) : Prop where
  /-- The other path is the one above. -/
  parent?_eq : parent? path = some parent
  /-- The path ends in the name. -/
  moves_eq : moves path = moves parent ++ [name]
  /-- That is its last part. -/
  endsInMove : EndsInMove path
  /-- The name does not lead back. -/
  name_ne : name ≠ ".."

section IsIn

variable {path parent name : String}

theorem IsIn.isParent (h : IsIn path parent name) : IsParent parent path := isParent_of_parent? h.parent?_eq

theorem IsIn.isMove (h : IsIn path parent name) : isMove name = true :=
  (exists_parts h.endsInMove h.moves_eq).choose_spec.2.2

/-- A file in a directory is one step further than the directory. -/
theorem IsIn.place_eq (h : IsIn path parent name) (cwd : Place) : place cwd path = place cwd parent ++ [name] := by
  have hskip := isMove_eq_true_iff.1 h.isMove
  rw [place_eq_follow_moves, h.moves_eq, follow_append, ← h.isParent.place_eq h.moves_eq, follow, if_neg hskip,
    if_neg (by simpa using h.name_ne), follow]

end IsIn

/-- An ending that makes a name of any word: three characters or more, and no slash. -/
structure IsEnding (ending : String) : Prop where
  /-- No slash is in it. -/
  slash : '/' ∉ ending.toList
  /-- It is longer than a dot, and than two of them. -/
  long : 2 < ending.toList.length

theorem IsEnding.isName {ending word : String} (h : IsEnding ending) (hword : '/' ∉ word.toList) : IsName (word ++ ending) := by
  have hlength : 2 < (word ++ ending).toList.length := by
    have := h.long
    rw [String.toList_append, List.length_append]
    omega
  refine ⟨?_, ?_, ?_, ?_⟩
  · rw [String.toList_append, List.mem_append, not_or]
    exact ⟨hword, h.slash⟩
  · rintro heq
    rw [heq] at hlength
    simp at hlength
  · rintro heq
    rw [heq] at hlength
    simp at hlength
  · rintro heq
    rw [heq] at hlength
    simp at hlength

theorem IsName.isMove {name : String} (h : IsName name) : isMove name = true := by
  rw [isMove_eq_true_iff]
  simp [h.empty, h.here]

theorem dropWhile_ending {ending : String} (h : IsEnding ending) (base : String) :
    (base ++ ending).toList.reverse.dropWhile (· != '/') = base.toList.reverse.dropWhile (· != '/') := by
  rw [String.toList_append, List.reverse_append]
  refine List.dropWhile_append_of_pos fun c hc => ?_
  have hne : c ≠ '/' := by
    rintro rfl
    exact h.slash (List.mem_reverse.1 hc)
  simpa using hne

/-- An ending is no separator. -/
theorem dropSeparators_ending {ending : String} (h : IsEnding ending) (base : String) :
    dropSeparators (base ++ ending).toList.reverse = (base ++ ending).toList.reverse := by
  have hslash : '/' ∉ ending.toList.reverse := by
    rw [List.mem_reverse]
    exact h.slash
  have hlong : 2 < ending.toList.reverse.length := by
    rw [List.length_reverse]
    exact h.long
  rw [String.toList_append, List.reverse_append]
  generalize ending.toList.reverse = back at hslash hlong
  match back with
  | c :: c' :: back =>
    rw [List.mem_cons, List.mem_cons, not_or, not_or] at hslash
    rw [List.cons_append, List.cons_append, dropSeparators]
    · intro rest heq
      exact hslash.1 (List.cons.inj heq).1.symm
    · intro rest heq
      exact hslash.2.1 (List.cons.inj (List.cons.inj heq).2).1.symm

theorem isAbsolute_ending {ending : String} (h : IsEnding ending) (base : String) : isAbsolute (base ++ ending) = isAbsolute base := by
  by_cases hbase : base.toList = []
  · have hempty : base = "" := String.toList_eq_nil_iff.1 hbase
    subst hempty
    have hname : IsName ("" ++ ending) := h.isName (by simp)
    exact hname.not_absolute
  · have happend : base ++ ending = String.ofList (base.toList ++ ending.toList) := by
      rw [← String.toList_inj, String.toList_append, String.toList_ofList]
    rw [happend, isAbsolute_append hbase, String.ofList_toList]

/-- What stands before an ending. -/
theorem exists_word (base : String) :
    ∃ front word, '/' ∉ word.toList ∧ ∀ ending, IsEnding ending → parts (base ++ ending) = front ++ [word ++ ending] := by
  rcases dropWhile_cases base.toList.reverse with ⟨hslash, -⟩ | ⟨word, rest, hslash, hback, -⟩
  · rw [List.mem_reverse] at hslash
    exact ⟨[], base, hslash, fun ending h => (h.isName hslash).parts_eq⟩
  · refine ⟨parts (String.ofList rest.reverse), String.ofList word.reverse, by simpa using hslash, fun ending h => ?_⟩
    have hword : '/' ∉ ending.toList.reverse ++ word := by
      rw [List.mem_append, List.mem_reverse, not_or]
      exact ⟨h.slash, hslash⟩
    have hpath : base ++ ending = String.ofList ((ending.toList.reverse ++ word) ++ '/' :: rest).reverse := by
      rw [← String.toList_inj, String.toList_append, String.toList_ofList, List.append_assoc, ← hback, List.reverse_append,
        List.reverse_reverse, List.reverse_reverse]
    have hname : word.reverse ++ ending.toList = (String.ofList word.reverse ++ ending).toList := by
      rw [String.toList_append, String.toList_ofList]
    rw [hpath, parts_reverse hword, List.reverse_append, List.reverse_reverse, hname, String.ofList_toList]

/-- The path above one with moves does not depend on its ending. -/
theorem parent?_ending {ending ending' : String} (h : IsEnding ending) (h' : IsEnding ending') {base : String}
    (hmoves : moves (base ++ ending) ≠ []) (hmoves' : moves (base ++ ending') ≠ []) :
    parent? (base ++ ending) = parent? (base ++ ending') := by
  rw [parent?_of_moves hmoves, parent?_of_moves hmoves', dropSeparators_ending h, dropSeparators_ending h', dropWhile_ending h,
    dropWhile_ending h', isAbsolute_ending h, isAbsolute_ending h']

/-- Files that differ in their endings are in one directory. -/
theorem exists_isIn (base : String) :
    ∃ parent word, ∀ ending, IsEnding ending → IsIn (base ++ ending) parent (word ++ ending) := by
  obtain ⟨front, word, hword, hparts⟩ := exists_word base
  have hmoves (ending : String) (h : IsEnding ending) :
      moves (base ++ ending) = front.filter isMove ++ [word ++ ending] := by
    rw [moves, hparts ending h, List.filter_append, List.filter_cons_of_pos (h.isName hword).isMove, List.filter_nil]
  have hout : IsEnding ".out" := ⟨by decide, by decide⟩
  have hsome (ending : String) (h : IsEnding ending) : moves (base ++ ending) ≠ [] := by simp [hmoves ending h]
  obtain ⟨parent, hparent, hisParent⟩ := exists_isParent (hsome _ hout)
  refine ⟨parent, word, fun ending h => ⟨?_, ?_, ?_, (h.isName hword).above⟩⟩
  · rw [parent?_ending h hout (hsome _ h) (hsome _ hout), hparent]
  · rw [hmoves ending h, hisParent.moves_dropLast (hmoves _ hout)]
  · intro _ front' last hlast
    rw [hparts ending h] at hlast
    obtain rfl := List.singleton_inj.1 (List.append_inj' hlast rfl).2
    exact (h.isName hword).isMove

/-- An ending may be added before or after a name is put into a directory. -/
theorem join_ending {ending : String} (h : IsEnding ending) (dir name : String) :
    join dir (name ++ ending) = join dir name ++ ending := by
  unfold join
  rw [isAbsolute_ending h]
  split
  · rfl
  · split
    · rw [String.append_assoc]
    · simp only [String.append_assoc]

end StagedLaunch.Path
