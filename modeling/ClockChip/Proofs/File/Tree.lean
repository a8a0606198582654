import ClockChip.File.System
import ClockChip.Proofs.File.Path
import Mathlib.Data.List.Basic

/-!
# Directories and the files in them

What is done to one place of a tree is seen at that place only.  Making a directory adds places and
changes none, so that all that could be reached before is reached as before.

## Main definitions

* `FileTree.Usable`: a path that the file system takes.
* `FileTree.descend`: the place of a directory.
* `FileTree.Grown`: a tree with more in it.
* `FileTree.IsFileName`: a name that a file can have.

## Main results

* `FileTree.find?_put_self`, `FileTree.find?_put_of_ne`: what is where after something was put.
* `FileTree.locate_join`: where the path of a file in a directory leads.
* `FileTree.isDirectory_iff`: the paths that lead to a directory.
* `FileTree.makeDirectories_grown`, `FileTree.makeDirectories_of_isDirectory`: **what a directory is
  made of, and that one that is there stays as it is.**
-/

namespace ClockChip.FileTree

open ClockChip.Path (IsName)

variable {t t' : FileTree} {place other : Place} {node : FileNode} {path dir name : String}

/-! ### What is where -/

theorem lookup_map_replace (entries : List (Place × FileNode)) (place other : Place)
    (node : FileNode) :
    (entries.map fun e => if e.1 = place then (place, node) else e).lookup other
      = if other = place then (entries.lookup place).map fun _ => node
        else entries.lookup other := by
  induction entries with
  | nil => simp
  | cons e entries ih =>
    obtain ⟨at', old⟩ := e
    by_cases hat : at' = place
    · subst hat
      by_cases hother : other = at'
      · simp [hother]
      · have hne : (other == at') = false := by simpa using hother
        simpa [List.lookup_cons, hne, hother] using ih
    · by_cases hother : other = at'
      · subst hother
        simp [hat]
      · have hne : (other == at') = false := by simpa using hother
        have hne' : (place == at') = false := by simpa using Ne.symm hat
        simpa [List.lookup_cons, hne, hne', hat] using ih

theorem lookup_put (t : FileTree) (place other : Place) (node : FileNode) :
    (t.put place node).entries.lookup other
      = if other = place then some node else t.entries.lookup other := by
  unfold put
  split
  case isTrue hthere =>
    rw [lookup_map_replace]
    obtain ⟨old, hold⟩ := Option.isSome_iff_exists.mp hthere
    rw [hold]
    rfl
  case isFalse hnot =>
    have hnone : t.entries.lookup place = none := Option.not_isSome_iff_eq_none.mp hnot
    rw [List.lookup_append]
    by_cases hother : other = place
    · subst hother
      simp [hnone]
    · have hne : (other == place) = false := by simpa using hother
      simp [hother, List.lookup_cons, hne]

/-- Something put below the bases is there. -/
theorem find?_put_self (h : place.isBase = false) (t : FileTree) (node : FileNode) :
    (t.put place node).find? place = some node := by
  rw [find?, h, if_neg (by simp), lookup_put, if_pos rfl]

/-- What is put at one place changes nothing at another. -/
theorem find?_put_of_ne (h : other ≠ place) (t : FileTree) (node : FileNode) :
    (t.put place node).find? other = t.find? other := by
  rw [find?, find?, lookup_put, if_neg h]

/-- A place with a name in it that is no dots and no slash lies below the bases. -/
theorem isBase_append (h : IsName name) (hdots : name ≠ "..") (place : Place) :
    Place.isBase (place ++ [name]) = false := by
  have hroot : place ++ [name] ≠ Place.root := by
    intro hsame
    have hlast := congrArg List.getLast? hsame
    rw [List.getLast?_concat] at hlast
    cases hlast
    exact h.slash (by decide)
  simp [Place.isBase, hroot, hdots]

/-! ### Going down -/

/-- Going down one name. -/
theorem enter_singleton (t : FileTree) (place : Place) (name : String) :
    t.enter place [name]
      = if name = "." then .ok place
        else if name = ".." then .ok place.up
        else if nameLimit < name.utf8ByteSize then .error .nameTooLong
        else match t.find? (place ++ [name]) with
          | none => .error .notFound
          | some (.file _) => .error .notDirectory
          | some .directory => .ok (place ++ [name]) := by
  rw [enter]
  rfl

/-- Names are entered one behind the other. -/
theorem enter_append (t : FileTree) (place : Place) (front back : List String) :
    t.enter place (front ++ back) = (t.enter place front).bind fun p => t.enter p back := by
  -- along the lookup of the names in front; dots and directories go on, all else stops both sides
  fun_induction enter t place front with
  | case1 place => rfl
  | case2 place rest ih => simpa [enter] using ih
  | case3 place rest hdot ih => simpa [enter] using ih
  | case4 place name rest hdot hdots hlong => simp [enter, hdot, hdots, hlong, Except.bind]
  | case5 place name rest hdot hdots hlong hnone =>
    simp [enter, hdot, hdots, hlong, hnone, Except.bind]
  | case6 place name rest hdot hdots hlong content hfile =>
    simp [enter, hdot, hdots, hlong, hfile, Except.bind]
  | case7 place name rest hdot hdots hlong hdirectory ih =>
    simpa [enter, hdot, hdots, hlong, hdirectory] using ih

/-- Everything that was there is there as it was. -/
def Grown (t t' : FileTree) : Prop :=
  ∀ place node, t.find? place = some node → t'.find? place = some node

theorem Grown.refl (t : FileTree) : t.Grown t := fun _ _ h => h

theorem Grown.trans {t'' : FileTree} (h : t.Grown t') (h' : t'.Grown t'') : t.Grown t'' :=
  fun place node hfind => h' place node (h place node hfind)

theorem grown_put (h : t.find? place = none) (node : FileNode) : t.Grown (t.put place node) := by
  intro other old hold
  have hne : other ≠ place := by
    rintro rfl
    rw [h] at hold
    cases hold
  rw [find?_put_of_ne hne]
  exact hold

/-- As long as all directories stay, what could be entered can be entered. -/
theorem enter_ok_of_directories
    (h : ∀ place, t.find? place = some .directory → t'.find? place = some .directory)
    {place p : Place} {names : List String} (henter : t.enter place names = .ok p) :
    t'.enter place names = .ok p := by
  fun_induction enter t place names with
  | case1 place => exact henter
  | case2 place rest ih => simpa [enter] using ih henter
  | case3 place rest hdot ih => simpa [enter] using ih henter
  | case4 | case5 | case6 => cases henter
  | case7 place name rest hdot hdots hlong hdirectory ih =>
    simpa [enter, hdot, hdots, hlong, h _ hdirectory] using ih henter

/-- What could not be entered still cannot, unless it was because there was nothing. -/
theorem enter_error_of_grown (h : t.Grown t') {place : Place} {names : List String}
    {e : FileError} (henter : t.enter place names = .error e) (hne : e ≠ .notFound) :
    t'.enter place names = .error e := by
  fun_induction enter t place names with
  | case1 place => cases henter
  | case2 place rest ih => simpa [enter] using ih henter
  | case3 place rest hdot ih => simpa [enter] using ih henter
  | case4 place name rest hdot hdots hlong => simpa [enter, hdot, hdots, hlong] using henter
  | case5 =>
    cases henter
    exact absurd rfl hne
  | case6 place name rest hdot hdots hlong content hfile =>
    simpa [enter, hdot, hdots, hlong, h _ _ hfile] using henter
  | case7 place name rest hdot hdots hlong hdirectory ih =>
    simpa [enter, hdot, hdots, hlong, h _ _ hdirectory] using ih henter

/-! ### Paths -/

/-- A path that the file system takes. -/
structure Usable (path : String) : Prop where
  nul : '\x00' ∉ path.toList
  nonempty : path ≠ ""
  short : path.utf8ByteSize < pathLimit

/-- Where a path starts. -/
def start (path : String) : Place := if Path.isAbsolute path then Place.root else []

/-- The place that is reached through all names of a path. -/
def descend (t : FileTree) (path : String) : Except FileError Place :=
  t.enter (start path) (Path.names path)

/-- Where one last name leads from a directory. -/
def arrive (t : FileTree) (place : Place) (name : String) : Except FileError Target :=
  if name = "." then .ok (.known place)
  else if name = ".." then .ok (.known place.up)
  else if nameLimit < name.utf8ByteSize then .error .nameTooLong
  else .ok (.named (place ++ [name]) (t.find? (place ++ [name])))

theorem usable_of_locate {target : Target} (h : t.locate path = .ok target) : Usable path := by
  unfold locate at h
  by_cases hnul : path.toList.contains '\x00' = true
  · rw [if_pos hnul] at h
    cases h
  · by_cases hempty : path = ""
    · rw [if_neg hnul, if_pos hempty] at h
      cases h
    · by_cases hlong : pathLimit ≤ path.utf8ByteSize
      · rw [if_neg hnul, if_neg hempty, if_pos hlong] at h
        cases h
      · exact ⟨by simpa using hnul, hempty, by omega⟩

theorem locate_of_long (hnul : '\x00' ∉ path.toList) (hempty : path ≠ "")
    (hlong : pathLimit ≤ path.utf8ByteSize) (t : FileTree) :
    t.locate path = .error .nameTooLong := by
  have hcontains : ¬ path.toList.contains '\x00' = true := by simpa using hnul
  rw [locate, if_neg hcontains, if_neg hempty, if_pos hlong]
  rfl

theorem locate_of_names_eq_nil (h : Usable path) (hnames : Path.names path = []) (t : FileTree) :
    t.locate path = .ok (.known (start path)) := by
  have hcontains : ¬ path.toList.contains '\x00' = true := by simpa using h.nul
  rw [locate, if_neg hcontains, if_neg h.nonempty, if_neg (Nat.not_le.mpr h.short), hnames]
  rfl

/-- A path leads through all of its names but the last, and from there to the last one. -/
theorem locate_of_names_eq_concat (h : Usable path) {front : List String}
    (hnames : Path.names path = front ++ [name]) (t : FileTree) :
    t.locate path = (t.enter (start path) front).bind fun place => t.arrive place name := by
  have hcontains : ¬ path.toList.contains '\x00' = true := by simpa using h.nul
  rw [locate, if_neg hcontains, if_neg h.nonempty, if_neg (Nat.not_le.mpr h.short), hnames]
  simp only [List.dropLast_concat, List.getLast?_concat]
  change (t.enter (start path) front >>= _) = _
  rcases t.enter (start path) front with e | place
  · rfl
  · dsimp only [bind, Except.bind]
    split
    case h_1 hnone => cases hnone
    case h_2 hdot =>
      cases hdot
      rfl
    case h_3 hdots =>
      cases hdots
      rfl
    case h_4 hdot hdots hname =>
      cases hname
      have hdot : name ≠ "." := by
        rintro rfl
        exact hdot rfl
      have hdots : name ≠ ".." := by
        rintro rfl
        exact hdots rfl
      rw [arrive, if_neg hdot, if_neg hdots]
      by_cases hlong : nameLimit < name.utf8ByteSize
      · rw [if_pos hlong, if_pos hlong]
        rfl
      · rw [if_neg hlong, if_neg hlong]
        rfl

/-- The last name of a path leads to a directory if it can be entered. -/
theorem arrive_isDirectory_iff (t : FileTree) (place : Place) (name : String) :
    (match t.arrive place name with
      | .ok (.known _) => true
      | .ok (.named _ (some .directory)) => true
      | _ => false) = true ↔ ∃ p, t.enter place [name] = .ok p := by
  rw [enter_singleton, arrive]
  by_cases hdot : name = "."
  · simp [hdot]
  · by_cases hdots : name = ".."
    · simp [hdots]
    · by_cases hlong : nameLimit < name.utf8ByteSize
      · simp [hdot, hdots, hlong]
      · rw [if_neg hdot, if_neg hdots, if_neg hlong, if_neg hdot, if_neg hdots, if_neg hlong]
        rcases t.find? (place ++ [name]) with _ | _ | _ <;> simp

/-- **The paths that lead to a directory** are those of which every name can be entered. -/
theorem isDirectory_iff :
    t.isDirectory path = true ↔ Usable path ∧ ∃ p, t.descend path = .ok p := by
  by_cases husable : Usable path
  · rw [isDirectory, descend]
    rcases List.eq_nil_or_concat' (Path.names path) with hnames | ⟨front, name, hnames⟩
    · rw [locate_of_names_eq_nil husable hnames, hnames]
      exact iff_of_true rfl ⟨husable, _, rfl⟩
    · rw [locate_of_names_eq_concat husable hnames, hnames, enter_append, and_iff_right husable]
      rcases t.enter (start path) front with e | place
      · exact iff_of_false (by simp [Except.bind]) (by simp [Except.bind])
      · exact arrive_isDirectory_iff t place name
  · refine iff_of_false ?_ (fun h => husable h.1)
    rw [isDirectory]
    split
    case h_1 hlocate => exact absurd (usable_of_locate hlocate) husable
    case h_2 hlocate => exact absurd (usable_of_locate hlocate) husable
    case h_3 => simp

theorem arrive_eq_named_iff {target : Place} {node : Option FileNode} :
    t.arrive place name = .ok (.named target node)
      ↔ (name ≠ "." ∧ name ≠ ".." ∧ name.utf8ByteSize ≤ nameLimit)
        ∧ target = place ++ [name] ∧ node = t.find? (place ++ [name]) := by
  rw [arrive]
  by_cases hdot : name = "."
  · simp [hdot]
  · by_cases hdots : name = ".."
    · simp [hdots]
    · by_cases hlong : nameLimit < name.utf8ByteSize
      · have hnot : ¬ name.utf8ByteSize ≤ nameLimit := Nat.not_le.mpr hlong
        simp [hdot, hdots, hlong, hnot]
      · simp [hdot, hdots, hlong, Nat.le_of_not_lt hlong, eq_comm]

/-- Nothing is missing at a base. -/
theorem isBase_of_find?_eq_none (h : t.find? place = none) : place.isBase = false := by
  rw [find?] at h
  split at h
  case isTrue => cases h
  case isFalse hbase => simpa using hbase

/-! ### Making directories -/

/-- A directory that was made is there, and all that was there before is there as it was. -/
theorem makeDirectory_grown (h : t.makeDirectory path = .ok t') :
    t.Grown t' ∧ t'.isDirectory path = true := by
  rw [makeDirectory] at h
  split at h
  case h_1 => cases h
  case h_2 => cases h
  case h_3 => cases h
  case h_4 place hlocate =>
    cases h
    have husable := usable_of_locate hlocate
    rcases List.eq_nil_or_concat' (Path.names path) with hnames | ⟨front, name, hnames⟩
    · rw [locate_of_names_eq_nil husable hnames] at hlocate
      cases hlocate
    · rw [locate_of_names_eq_concat husable hnames] at hlocate
      rcases henter : t.enter (start path) front with e | above
      · rw [henter] at hlocate
        cases hlocate
      · rw [henter] at hlocate
        obtain ⟨⟨hdot, hdots, hshort⟩, rfl, hnone⟩ := arrive_eq_named_iff.mp hlocate
        -- the way to the place is as before, and the place was empty and so is no base
        have hgrown := grown_put hnone.symm .directory
        have hthere := find?_put_self (isBase_of_find?_eq_none hnone.symm) t .directory
        refine ⟨hgrown, isDirectory_iff.mpr ⟨husable, above ++ [name], ?_⟩⟩
        rw [descend, hnames, enter_append,
          enter_ok_of_directories (fun place => hgrown place _) henter]
        show enter _ above [name] = _
        rw [enter_singleton, if_neg hdot, if_neg hdots, if_neg (Nat.not_lt.mpr hshort), hthere]

theorem run_readFile (t : FileTree) (path : String) :
    (FileSystem.readFile path : StateM FileTree _).run t = (t.readFile path, t) := rfl

theorem run_makeDirectory (t : FileTree) (path : String) :
    (FileSystem.makeDirectory path : StateM FileTree _).run t
      = match t.makeDirectory path with
        | .ok t' => (.ok (), t')
        | .error e => (.error e, t) := rfl

theorem run_writeFile (t : FileTree) (path : String) (content : List UInt8) :
    (FileSystem.writeFile path content : StateM FileTree _).run t
      = match t.writeFile path content with
        | .ok t' => (.ok (), t')
        | .error e => (.error e, t) := rfl

/-- A directory that was settled is there, and all that was there before is there as it was. -/
theorem settleDirectory_grown
    (h : (settleDirectory path : StateM FileTree _).run t = (.ok (), t')) :
    t.Grown t' ∧ t'.isDirectory path = true := by
  rw [settleDirectory, StateT.run_bind, run_makeDirectory] at h
  rcases hmake : t.makeDirectory path with e | made
  · rw [hmake] at h
    change ((if t.isDirectory path then .ok () else .error e : Except FileError Unit), t)
      = (.ok (), t') at h
    by_cases hthere : t.isDirectory path = true
    · rw [if_pos hthere] at h
      cases h
      exact ⟨.refl t, hthere⟩
    · rw [if_neg hthere] at h
      cases h
  · rw [hmake] at h
    cases h
    exact makeDirectory_grown hmake

/-- A directory is made right away if it can be, and else behind those above it. -/
theorem run_settleFrom_cons (hpath : path ≠ "") (above : List String) (t : FileTree) :
    (settleFrom (path :: above) : StateM FileTree _).run t
      = match t.makeDirectory path with
        | .ok t' => (.ok (), t')
        | .error .notFound =>
          match (settleFrom above : StateM FileTree _).run t with
          | (.ok (), t') => (settleDirectory path : StateM FileTree _).run t'
          | (.error e, t') => (.error e, t')
        | .error e => (if t.isDirectory path then .ok () else .error e, t) := by
  rw [settleFrom, if_neg hpath, StateT.run_bind, run_makeDirectory]
  rcases t.makeDirectory path with e | made
  · cases e with
    | notFound =>
      show (settleFrom above >>= _ : StateM FileTree _).run t = _
      rw [StateT.run_bind]
      rcases (settleFrom above : StateM FileTree _).run t with ⟨e | _, t'⟩ <;> rfl
    | _ => rfl
  · rfl

/-- Of directories of which each stands before the one that contains it, the first is there once
they have been settled. -/
theorem settleFrom_grown {paths : List String}
    (h : (settleFrom paths : StateM FileTree _).run t = (.ok (), t')) :
    t.Grown t' ∧ ∀ path ∈ paths.head?, path = "" ∨ t'.isDirectory path = true := by
  -- on the directories above, which are settled before the first one is tried again
  induction paths generalizing t' with
  | nil => cases h
  | cons path above ih =>
    simp only [List.head?_cons, Option.mem_some_iff, forall_eq']
    by_cases hempty : path = ""
    · rw [settleFrom, if_pos hempty] at h
      cases h
      exact ⟨.refl t, .inl hempty⟩
    · rw [run_settleFrom_cons hempty] at h
      split at h
      -- it was made right away, behind those above it, or was there
      case h_1 made hmake =>
        cases h
        exact (makeDirectory_grown hmake).imp_right .inr
      case h_2 =>
        split at h
        case h_1 t₁ habove =>
          obtain ⟨hgrown, -⟩ := ih habove
          obtain ⟨hgrown', hthere⟩ := settleDirectory_grown h
          exact ⟨hgrown.trans hgrown', .inr hthere⟩
        case h_2 => cases h
      case h_3 =>
        split at h
        case isTrue hthere =>
          cases h
          exact ⟨.refl t, .inr hthere⟩
        case isFalse => cases h

/-- **A directory that was made with all that were missing above it** is there, and all that was
there before is there as it was. -/
theorem makeDirectories_grown
    (h : (makeDirectories path : StateM FileTree _).run t = (.ok (), t')) :
    t.Grown t' ∧ (path = "" ∨ t'.isDirectory path = true) := by
  obtain ⟨hgrown, hthere⟩ := settleFrom_grown h
  exact ⟨hgrown, hthere path rfl⟩

/-- **A directory that is there stays as it is.** -/
theorem makeDirectories_of_isDirectory (h : path = "" ∨ t.isDirectory path = true) :
    (makeDirectories path : StateM FileTree _).run t = (.ok (), t) := by
  rw [makeDirectories, Path.ancestors]
  by_cases hempty : path = ""
  · rw [settleFrom, if_pos hempty]
    rfl
  · have hthere : t.isDirectory path = true := h.resolve_left hempty
    have hmake : t.makeDirectory path = .error .alreadyExists := by
      rw [isDirectory] at hthere
      rw [makeDirectory]
      split at hthere
      case h_1 hlocate => rw [hlocate]
      case h_2 hlocate => rw [hlocate]
      case h_3 => cases hthere
    rw [run_settleFrom_cons hempty, hmake]
    show ((if t.isDirectory path then .ok () else .error _ : Except FileError Unit), t) = _
    rw [if_pos hthere]

/-! ### Files in a directory -/

/-- A name that a file can have. -/
structure IsFileName (name : String) : Prop extends IsName name where
  dot : name ≠ "."
  dots : name ≠ ".."
  short : name.utf8ByteSize ≤ nameLimit

/-- A directory that is there has a place, also if its path is empty. -/
theorem isDirectory_iff_descend :
    (dir = "" ∨ t.isDirectory dir = true)
      ↔ (dir = "" ∨ Usable dir) ∧ ∃ place, t.descend dir = .ok place := by
  by_cases hempty : dir = ""
  · subst hempty
    exact iff_of_true (.inl rfl) ⟨.inl rfl, [], rfl⟩
  · rw [isDirectory_iff, or_iff_right hempty, or_iff_right hempty]

/-- The path of a file leads through its directory. -/
theorem locate_join (hname : IsFileName name) (husable : Usable (Path.join dir name))
    (t : FileTree) :
    t.locate (Path.join dir name)
      = (t.descend dir).bind fun place => .ok (.named (place ++ [name])
          (t.find? (place ++ [name]))) := by
  have hstart : start (Path.join dir name) = start dir := by
    rw [start, Path.isAbsolute_join hname.toIsName]
    rfl
  rw [locate_of_names_eq_concat husable (Path.names_join hname.toIsName dir), hstart, descend]
  rcases t.enter (start dir) (Path.names dir) with e | place
  · rfl
  · exact arrive_eq_named_iff.mpr ⟨⟨hname.dot, hname.dots, hname.short⟩, rfl, rfl⟩

/-- A file in a directory is read from its place. -/
theorem readFile_join (hname : IsFileName name) (husable : Usable (Path.join dir name))
    (hdir : t.descend dir = .ok place) :
    t.readFile (Path.join dir name)
      = match t.find? (place ++ [name]) with
        | none => .error (.opening .notFound)
        | some .directory => .error (.transfer .isDirectory)
        | some (.file content) => .ok content := by
  have hslash := Path.not_endsInSlash_join hname.toIsName dir
  rw [readFile, locate_join hname husable, hdir, hslash]
  rcases hfind : t.find? (place ++ [name]) with _ | _ | _ <;> simp [Except.bind, hfind]

/-- In a directory that is not there, no file is found. -/
theorem readFile_join_of_notFound (hname : IsFileName name)
    (husable : Usable (Path.join dir name)) (hdir : t.descend dir = .error .notFound) :
    t.readFile (Path.join dir name) = .error (.opening .notFound) := by
  rw [readFile, locate_join hname husable, hdir]
  rfl

/-- A file that is not there in a tree with more in it was not there before, whether or not its
directory was. -/
theorem readFile_join_of_grown (hname : IsFileName name) (husable : Usable (Path.join dir name))
    (hgrown : t.Grown t') (hdir : t'.descend dir = .ok place)
    (hnone : t'.find? (place ++ [name]) = none) :
    t.readFile (Path.join dir name) = .error (.opening .notFound) := by
  rcases hdescend : t.descend dir with e | before
  · -- any other error would still be there
    have hnotFound : e = .notFound := by
      by_contra hne
      have herror := enter_error_of_grown hgrown hdescend hne
      rw [descend, herror] at hdir
      cases hdir
    subst hnotFound
    exact readFile_join_of_notFound hname husable hdescend
  · have hsame : before = place := by
      have hok := enter_ok_of_directories (fun at' => hgrown at' _) hdescend
      exact Except.ok.inj (hok.symm.trans hdir)
    subst hsame
    have hfind : t.find? (before ++ [name]) = none := by
      by_contra hsome
      obtain ⟨node, hnode⟩ := Option.ne_none_iff_exists'.mp hsome
      rw [hgrown _ _ hnode] at hnone
      cases hnone
    rw [readFile_join hname husable hdescend, hfind]

/-- A file in a directory is written to its place, unless there is a directory. -/
theorem writeFile_join (hname : IsFileName name) (husable : Usable (Path.join dir name))
    (hdir : t.descend dir = .ok place) (hnot : t.find? (place ++ [name]) ≠ some .directory)
    (content : List UInt8) :
    t.writeFile (Path.join dir name) content = .ok (t.put (place ++ [name]) (.file content)) := by
  have hslash := Path.not_endsInSlash_join hname.toIsName dir
  rw [writeFile, locate_join hname husable, hdir, hslash]
  rcases hfind : t.find? (place ++ [name]) with _ | _ | _
  · simp [Except.bind, hfind]
  · simp [Except.bind, hfind]
  · exact absurd hfind hnot

/-- Putting something where there is no directory leaves the way to every directory. -/
theorem descend_put (hnot : t.find? other ≠ some .directory) (node : FileNode)
    (hdir : t.descend dir = .ok place) : (t.put other node).descend dir = .ok place := by
  refine enter_ok_of_directories ?_ hdir
  intro at' hdirectory
  have hne : at' ≠ other := by
    rintro rfl
    exact hnot hdirectory
  rw [find?_put_of_ne hne]
  exact hdirectory

end ClockChip.FileTree
