import ClockChip.File.Path

/-!
# The path of a file in a directory

Whatever the path of a directory looks like, with or without a slash behind it, or empty, the path
of a file in it has the names of the directory and behind them the name of the file.

## Main definitions

* `Path.IsName`: a text that is one name.

## Main results

* `Path.names_join`, `Path.isAbsolute_join`: the names of a file's path, and where it starts.
-/

namespace ClockChip.Path

/-- A text that is one name: it is not empty and has no slash. -/
structure IsName (name : String) : Prop where
  nonempty : name ≠ ""
  slash : '/' ∉ name.toList

variable {dir name : String}

/-! ### Splitting -/

theorem splitSlash_ne_nil (cs : List Char) : splitSlash cs ≠ [] := by
  cases cs with
  | nil => simp [splitSlash]
  | cons c cs =>
    unfold splitSlash
    split
    · simp
    · split <;> simp

/-- Without a slash there is one piece. -/
theorem splitSlash_of_not_mem {cs : List Char} (h : '/' ∉ cs) : splitSlash cs = [cs] := by
  induction cs with
  | nil => rfl
  | cons c cs ih =>
    have hc : c ≠ '/' := by
      rintro rfl
      exact h List.mem_cons_self
    have hcs : '/' ∉ cs := fun hmem => h (List.mem_cons_of_mem c hmem)
    rw [splitSlash, if_neg hc, ih hcs]

/-- A slash separates the pieces in front of it from those behind. -/
theorem splitSlash_append (cs ds : List Char) :
    splitSlash (cs ++ '/' :: ds) = splitSlash cs ++ splitSlash ds := by
  induction cs with
  | nil => simp [splitSlash]
  | cons c cs ih =>
    rw [List.cons_append, splitSlash, splitSlash, ih]
    by_cases hc : c = '/'
    · rw [if_pos hc, if_pos hc]
      rfl
    · rw [if_neg hc, if_neg hc]
      obtain ⟨piece, pieces, hpieces⟩ := List.exists_cons_of_ne_nil (splitSlash_ne_nil cs)
      rw [hpieces]
      rfl

/-! ### Names -/

theorem names_empty : names "" = [] := by rfl

theorem names_eq_self (h : IsName name) : names name = [name] := by
  have hne : name.toList ≠ [] := fun hnil => h.nonempty (String.toList_eq_nil_iff.mp hnil)
  rw [names, splitSlash_of_not_mem h.slash]
  simp [hne]

/-- Behind a slash stands a name of its own. -/
theorem names_append_slash (h : IsName name) (dir : String) :
    names (dir ++ "/" ++ name) = names dir ++ [name] := by
  have hname := names_eq_self h
  have hchars : (dir ++ "/" ++ name).toList = dir.toList ++ '/' :: name.toList := by simp
  unfold names at hname ⊢
  rw [hchars, splitSlash_append, List.filter_append, List.map_append, hname]

/-- A slash at the end adds no name. -/
theorem names_append_slash_end (dir : String) : names (dir ++ "/") = names dir := by
  have hchars : (dir ++ "/").toList = dir.toList ++ '/' :: [] := by simp
  rw [names, hchars, splitSlash_append, List.filter_append]
  simp [names, splitSlash]

/-- However many slashes stand at the end. -/
theorem names_append_slashes (dir : String) (n : Nat) :
    names (dir ++ String.ofList (List.replicate n '/')) = names dir := by
  induction n with
  | zero => simp
  | succ n ih =>
    have hchars : dir ++ String.ofList (List.replicate (n + 1) '/')
        = dir ++ String.ofList (List.replicate n '/') ++ "/" := by
      rw [List.replicate_succ', String.ofList_append, ← String.append_assoc]
    rw [hchars, names_append_slash_end, ih]

/-- What ends in a slash is something with a slash behind it. -/
theorem exists_of_endsInSlash (h : endsInSlash dir = true) : ∃ front, dir = front ++ "/" := by
  rw [endsInSlash, beq_iff_eq] at h
  obtain ⟨cs, hcs⟩ := List.getLast?_eq_some_iff.mp h
  refine ⟨String.ofList cs, String.toList_inj.mp ?_⟩
  rw [hcs]
  simp

theorem not_isAbsolute_of_isName (h : IsName name) : isAbsolute name = false := by
  rw [isAbsolute, beq_eq_false_iff_ne]
  intro hhead
  exact h.slash (List.mem_of_head? hhead)

/-! ### Joining -/

/-- **The three ways in which a name is put behind a directory**: it stands alone, or behind a slash
that is there already, or behind one that is added. -/
theorem join_cases (h : IsName name) (dir : String) :
    (dir = "" ∧ join dir name = name)
      ∨ (∃ front, dir = front ++ "/" ∧ join dir name = front ++ "/" ++ name)
      ∨ (dir ≠ "" ∧ join dir name = dir ++ "/" ++ name) := by
  have hrelative := not_isAbsolute_of_isName h
  by_cases hdir : dir = ""
  · exact .inl ⟨hdir, by simp [join, hdir]⟩
  · by_cases hslash : endsInSlash dir = true
    · obtain ⟨front, rfl⟩ := exists_of_endsInSlash hslash
      exact .inr (.inl ⟨front, rfl, by simp [join, hrelative, hdir, hslash]⟩)
    · exact .inr (.inr ⟨hdir, by simp [join, hrelative, hdir, hslash]⟩)

/-- **The names of a file's path** are those of its directory, and its own behind them. -/
theorem names_join (h : IsName name) (dir : String) :
    names (join dir name) = names dir ++ [name] := by
  rcases join_cases h dir with ⟨rfl, hjoin⟩ | ⟨front, rfl, hjoin⟩ | ⟨-, hjoin⟩
  · rw [hjoin, names_eq_self h, names_empty]
    rfl
  · rw [hjoin, names_append_slash h, names_append_slash_end]
  · rw [hjoin, names_append_slash h]

/-- A file's path starts where that of its directory does. -/
theorem isAbsolute_join (h : IsName name) (dir : String) :
    isAbsolute (join dir name) = isAbsolute dir := by
  rcases join_cases h dir with ⟨rfl, hjoin⟩ | ⟨front, rfl, hjoin⟩ | ⟨hdir, hjoin⟩
  · rw [hjoin, not_isAbsolute_of_isName h]
    rfl
  · rw [hjoin]
    simp [isAbsolute, List.head?_append]
  · obtain ⟨c, cs, hchars⟩ := List.exists_cons_of_ne_nil (mt String.toList_eq_nil_iff.mp hdir)
    rw [hjoin]
    simp [isAbsolute, hchars]

/-- A file's path has no other characters than those of its directory, of its name, and slashes. -/
theorem mem_join (h : IsName name) {c : Char} (hc : c ∈ (join dir name).toList) :
    c ∈ dir.toList ∨ c = '/' ∨ c ∈ name.toList := by
  rcases join_cases h dir with ⟨-, hjoin⟩ | ⟨front, rfl, hjoin⟩ | ⟨-, hjoin⟩
  · exact .inr (.inr (hjoin ▸ hc))
  · rw [hjoin, String.toList_append, List.mem_append] at hc
    exact hc.imp_right .inr
  · simp only [hjoin, String.toList_append, List.mem_append, or_assoc] at hc
    exact hc.imp_right fun hrest => hrest.imp_left (by simp)

/-- A file's path ends as its name does. -/
theorem not_endsInSlash_join (h : IsName name) (dir : String) :
    endsInSlash (join dir name) = false := by
  have hname : endsInSlash name = false := by
    rw [endsInSlash, beq_eq_false_iff_ne]
    exact fun hlast => h.slash (List.mem_of_getLast? hlast)
  have hne : name.toList ≠ [] := fun hnil => h.nonempty (String.toList_eq_nil_iff.mp hnil)
  obtain ⟨front, hfront⟩ : ∃ front, join dir name = front ++ name := by
    rcases join_cases h dir with ⟨-, hjoin⟩ | ⟨front, -, hjoin⟩ | ⟨-, hjoin⟩
    · exact ⟨"", by rw [hjoin]; simp⟩
    · exact ⟨_, hjoin⟩
    · exact ⟨_, hjoin⟩
  have hlast : (front.toList ++ name.toList).getLast? = name.toList.getLast? := by
    rw [List.getLast?_append, List.getLast?_eq_some_getLast hne]
    rfl
  rw [hfront, endsInSlash, String.toList_append, hlast]
  exact hname

/-- A file's path is as long as those of its directory and its name together, or longer. -/
theorem le_utf8ByteSize_join (h : IsName name) (dir : String) :
    dir.utf8ByteSize + name.utf8ByteSize ≤ (join dir name).utf8ByteSize := by
  rcases join_cases h dir with ⟨rfl, hjoin⟩ | ⟨front, rfl, hjoin⟩ | ⟨-, hjoin⟩
  · rw [hjoin]
    simp
  · rw [hjoin]
    exact Nat.le_of_eq String.utf8ByteSize_append.symm
  · rw [hjoin, String.utf8ByteSize_append, String.utf8ByteSize_append]
    omega

end ClockChip.Path
