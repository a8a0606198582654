import ClockChip.Proofs.File.Tree
import ClockChip.Proofs.Store.SaveFile
import ClockChip.Proofs.Store.Serving

/-!
# A directory in the stead of a store in memory

A directory that can be made, and that then has nothing where the save files go, stands in for an
empty store in memory: to any saves and loads both give the same replies.  Each file then has just
the bytes of the context that was saved last under its name, as names that differ have files that
differ and a file that is written again is replaced as a whole.

The file system has the last word on paths.  Where the path of a directory can be taken but that of
a file in it is too long, or where making the directory puts something in the place of a save file,
the two stores part.

## Main definitions

* `SaveDirectory.Plain`, `SaveDirectory.Nameable`: a name that can be that of a save file, and a
  device whose save file can have its path.
* `SaveDirectory.HoldsAt`: a tree with the contexts of a map in the files of a directory.
* `SaveDirectory.Awaits`: the same of a directory that may still have to be made.
* `SaveDirectory.Takes`: a request that a directory can take.

## Main results

* `SaveDirectory.run_load_of_awaits`, `SaveDirectory.run_save_of_awaits`: one load, and one save.
* `SaveDirectory.serves`: a directory gives every reply that is due.
* `SaveDirectory.serveAll_eq_memory`: **a directory and a store in memory give the same replies.**
* `SaveDirectory.serveAll_ne_memory_longPath`: a directory that does not.
-/

namespace ClockChip

open FileTree (Usable IsFileName)

namespace SaveDirectory

variable {dir device : String} {t made : FileTree} {place : Place} {f : String → Option Context}

/-! ### The names of save files -/

/-- A name that can be that of a file with `.rtc` behind it. -/
structure Plain (device : String) : Prop where
  slash : '/' ∉ device.toList
  nul : '\x00' ∉ device.toList
  short : device.utf8ByteSize ≤ 251

/-- A device whose save file can have its path. -/
structure Nameable (dir device : String) : Prop extends Plain device where
  path_short : (path dir device).utf8ByteSize < FileTree.pathLimit

theorem toList_fileName (device : String) :
    (device ++ ".rtc").toList = device.toList ++ ['.', 'r', 't', 'c'] := by
  rw [String.toList_append]
  rfl

theorem utf8ByteSize_fileName (device : String) :
    (device ++ ".rtc").utf8ByteSize = device.utf8ByteSize + 4 := by
  rw [String.utf8ByteSize_append]
  rfl

theorem Plain.isFileName (h : Plain device) : IsFileName (device ++ ".rtc") := by
  have hlong (other : String) (hother : other.utf8ByteSize < 4) : device ++ ".rtc" ≠ other := by
    rintro rfl
    rw [utf8ByteSize_fileName] at hother
    omega
  have hshort := h.short
  refine ⟨⟨hlong "" (by decide), ?_⟩, hlong "." (by decide), hlong ".." (by decide), ?_⟩
  · rw [toList_fileName, List.mem_append]
    exact not_or.mpr ⟨h.slash, by decide⟩
  · rw [utf8ByteSize_fileName, FileTree.nameLimit]
    omega

theorem Plain.path_ne_empty (h : Plain device) (dir : String) : path dir device ≠ "" := by
  intro hempty
  have hnames := Path.names_join h.isFileName.toIsName dir
  change Path.names (path dir device) = _ at hnames
  rw [hempty, Path.names_empty] at hnames
  simp at hnames

theorem Plain.nul_path (h : Plain device) (hdir : dir = "" ∨ Usable dir) :
    '\x00' ∉ (path dir device).toList := by
  intro hnul
  rcases Path.mem_join h.isFileName.toIsName hnul with hnul | hnul | hnul
  · rcases hdir with rfl | hdir
    · simp at hnul
    · exact hdir.nul hnul
  · revert hnul
    decide
  · rw [toList_fileName, List.mem_append] at hnul
    exact not_or.mpr ⟨h.nul, by decide⟩ hnul

/-- A save file has a path that the file system takes, if its directory has one. -/
theorem Nameable.usable_path (h : Nameable dir device) (hdir : dir = "" ∨ Usable dir) :
    Usable (path dir device) :=
  ⟨h.nul_path hdir, h.path_ne_empty dir, h.path_short⟩

/-! ### What the files hold -/

/-- The directory is there, and in it each device has the file with the context that a map has for
it, and no file if there is none. -/
structure HoldsAt (dir : String) (place : Place) (t : FileTree) (f : String → Option Context) :
    Prop where
  usable : dir = "" ∨ Usable dir
  descend_eq : t.descend dir = .ok place
  find?_eq : ∀ device, Nameable dir device →
    t.find? (place ++ [device ++ ".rtc"]) = (f device).map fun c => .file c.encode
  counted : ∀ device, ∀ c ∈ f device, c.Counted

/-- Once the directory is made it holds the contexts of a map.  As long as it may still have to be
made there are none. -/
def Awaits (dir : String) (t : FileTree) (f : String → Option Context) : Prop :=
  ∃ made place, (makeDirectories dir : StateM FileTree _).run t = (.ok (), made)
    ∧ HoldsAt dir place made f ∧ (t = made ∨ ∀ device, f device = none)

/-- Nothing stands in the way of a file. -/
theorem HoldsAt.find?_ne_directory (h : HoldsAt dir place t f) (hdevice : Nameable dir device) :
    t.find? (place ++ [device ++ ".rtc"]) ≠ some .directory := by
  rw [h.find?_eq device hdevice]
  cases f device with
  | none => simp
  | some c => simp

/-- In a directory that can be made and then has no save file, nothing has been saved. -/
theorem awaits_of_fresh (hmake : (makeDirectories dir : StateM FileTree _).run t = (.ok (), made))
    (hfresh : ∀ device, Nameable dir device →
      made.readFile (path dir device) = .error (.opening .notFound)) :
    Awaits dir t fun _ => none := by
  obtain ⟨-, hthere⟩ := FileTree.makeDirectories_grown hmake
  obtain ⟨husable, place, hdescend⟩ := FileTree.isDirectory_iff_descend.mp hthere
  refine ⟨made, place, hmake, ⟨husable, hdescend, ?_, ?_⟩, .inr fun _ => rfl⟩
  · intro device hdevice
    have hread := hfresh device hdevice
    rw [path, FileTree.readFile_join hdevice.isFileName (hdevice.usable_path husable) hdescend]
      at hread
    split at hread
    case h_1 hnone => exact hnone
    case h_2 => cases hread
    case h_3 => cases hread
  · intro device c hc
    cases hc

/-- In an empty directory there is no save file. -/
theorem readFile_of_empty (husable : dir = "" ∨ Usable dir) (hdescend : t.descend dir = .ok place)
    (hempty : ∀ name, t.find? (place ++ [name]) = none) (hdevice : Nameable dir device) :
    t.readFile (path dir device) = .error (.opening .notFound) := by
  rw [path, FileTree.readFile_join hdevice.isFileName (hdevice.usable_path husable) hdescend,
    hempty]

/-- What is read of a file: the context of its device, or that there is none. -/
theorem readFile_of_awaits (h : Awaits dir t f) (hdevice : Nameable dir device) :
    t.readFile (path dir device)
      = match f device with
        | none => .error (.opening .notFound)
        | some c => .ok c.encode := by
  obtain ⟨made, place, hmake, hholds, hcase⟩ := h
  have hname := hdevice.isFileName
  have husable := hdevice.usable_path hholds.usable
  rcases hcase with rfl | hnone
  · rw [path, FileTree.readFile_join hname husable hholds.descend_eq,
      hholds.find?_eq device hdevice]
    cases f device <;> rfl
  · -- the tree has no more than the one with the directory made
    obtain ⟨hgrown, -⟩ := FileTree.makeDirectories_grown hmake
    have hfind := hholds.find?_eq device hdevice
    rw [hnone device] at hfind ⊢
    exact FileTree.readFile_join_of_grown hname husable hgrown hholds.descend_eq hfind

/-- With the context of one device put into its file, the files are those of the changed map. -/
theorem HoldsAt.put (h : HoldsAt dir place t f) (hdevice : Nameable dir device) {c : Context}
    (hc : c.Counted) :
    HoldsAt dir place (t.put (place ++ [device ++ ".rtc"]) (.file c.encode))
      (Function.update f device (some c)) where
  usable := h.usable
  descend_eq := FileTree.descend_put (h.find?_ne_directory hdevice) _ h.descend_eq
  find?_eq := by
    intro other hother
    have hname := hdevice.isFileName
    by_cases hsame : other = device
    · subst hsame
      rw [Function.update_self]
      exact FileTree.find?_put_self
        (FileTree.isBase_append hname.toIsName hname.dots place) t (.file c.encode)
    · -- names that differ have files that differ
      have hplace : place ++ [other ++ ".rtc"] ≠ place ++ [device ++ ".rtc"] := by
        simpa using hsame
      rw [Function.update_of_ne hsame, FileTree.find?_put_of_ne hplace]
      exact h.find?_eq other hother
  counted := by
    intro other c' hc'
    by_cases hsame : other = device
    · subst hsame
      rw [Function.update_self] at hc'
      cases hc'
      exact hc
    · rw [Function.update_of_ne hsame] at hc'
      exact h.counted other c' hc'

/-! ### One request -/

/-- A load gives out the context of the device, if it fits, and changes nothing. -/
theorem run_load_of_awaits (h : Awaits dir t f) (hdevice : Nameable dir device) (m n : Nat) :
    (load dir device m n : StateM FileTree _).run t
      = (.ok (Context.fitting m n (f device)), t) := by
  rw [run_load, readFile_of_awaits h hdevice]
  cases hc : f device with
  | none => rfl
  | some c =>
    obtain ⟨made, place, -, hholds, -⟩ := h
    have hcounted := hholds.counted device c hc
    have hdecode : Context.decoder.decode c.encode = .ok c :=
      Context.decode_eq_ok_iff.mpr ⟨hcounted, List.prefix_rfl⟩
    dsimp only
    rw [interpret_of_ok hdecode, Context.fitting_some]

/-- What a save comes to if its directory can be made: it is what comes of writing the file. -/
theorem run_save (hmake : (makeDirectories dir : StateM FileTree _).run t = (.ok (), made))
    (c : Context) :
    (save dir device c : StateM FileTree _).run t
      = match made.writeFile (path dir device) c.encode with
        | .ok t' => (.ok (), t')
        | .error (.opening e) => (.error (.cannotCreate (path dir device) e), made)
        | .error (.transfer e) => (.error (.cannotTransfer e), made) := by
  rw [save, run_bind_of hmake]
  dsimp only
  rw [run_bind_of (FileTree.run_writeFile made (path dir device) c.encode)]
  rcases made.writeFile (path dir device) c.encode with (e | e) | t' <;> rfl

/-- A save puts the context into the file of its device and touches no other. -/
theorem run_save_of_awaits (h : Awaits dir t f) (hdevice : Nameable dir device) {c : Context}
    (hc : c.Counted) :
    ∃ t', (save dir device c : StateM FileTree _).run t = (.ok (), t')
      ∧ Awaits dir t' (Function.update f device (some c)) := by
  obtain ⟨made, place, hmake, hholds, -⟩ := h
  have hwrite := FileTree.writeFile_join hdevice.isFileName (hdevice.usable_path hholds.usable)
    hholds.descend_eq (hholds.find?_ne_directory hdevice) c.encode
  have hput := hholds.put hdevice hc
  -- the directory is still there, so that the next save makes nothing
  have hthere := FileTree.isDirectory_iff_descend.mpr ⟨hput.usable, place, hput.descend_eq⟩
  refine ⟨_, by rw [run_save hmake, path, hwrite], ?_⟩
  exact ⟨_, place, FileTree.makeDirectories_of_isDirectory hthere, hput, .inl rfl⟩

/-! ### Runs -/

/-- A request that a directory can take: its device can have a save file, and a context is one that
can be counted. -/
def Takes (dir : String) : Request → Prop
  | .save device context => Nameable dir device ∧ context.Counted
  | .load device _ _ => Nameable dir device

/-- **A directory gives every reply that is due.** -/
theorem serves (dir : String) :
    (store dir : Store (StateM FileTree)).Serves (Awaits dir) (Takes dir) where
  step := by
    intro t f r hawaits htakes
    cases r with
    | save device context =>
      obtain ⟨hdevice, hcounted⟩ := htakes
      obtain ⟨t', hrun, hawaits'⟩ := run_save_of_awaits hawaits hdevice hcounted
      refine ⟨t', ?_, hawaits'⟩
      exact run_bind_of hrun
    | load device m n =>
      refine ⟨t, ?_, hawaits⟩
      exact run_bind_of (run_load_of_awaits hawaits htakes m n)

/-- **A directory and a store in memory give the same replies.**  The directory can be made,
whatever else is in the tree, and then has no save file; the store is empty.  To any saves and loads
for devices whose save files can have their paths, and with contexts of any size, both reply alike:
a save succeeds, and a load gives out the context that was saved last under that very name if it
fits, and nothing otherwise. -/
theorem serveAll_eq_memory
    (hmake : (makeDirectories dir : StateM FileTree _).run t = (.ok (), made))
    (hfresh : ∀ device, Nameable dir device →
      made.readFile (path dir device) = .error (.opening .notFound))
    {rs : List Request} (hrs : ∀ r ∈ rs, Takes dir r) :
    let files := (((store dir : Store (StateM FileTree)).serveAll rs).run t).1
    let memory := ((MemoryStore.store.serveAll rs).run .empty).1
    files = memory ∧ memory.length = rs.length
      ∧ ∀ before r rest, rs = before ++ r :: rest →
        memory[before.length]? = some (r.due fun device => lastSaved device before) := by
  intro files memory
  obtain ⟨t', hfiles, -⟩ := (serves dir).run hrs (awaits_of_fresh hmake hfresh)
  have hempty (device : String) : MemoryStore.empty.shelf.find? device = none := rfl
  obtain ⟨s', hmemory, -⟩ := MemoryStore.serves.run (fun r (_ : r ∈ rs) => trivial) hempty
  have hfiles' : files = Request.dueAll (fun _ => none) rs := congrArg Prod.fst hfiles
  have hmemory' : memory = Request.dueAll (fun _ => none) rs := congrArg Prod.fst hmemory
  refine ⟨hfiles'.trans hmemory'.symm, by rw [hmemory', Request.length_dueAll], ?_⟩
  rintro before r rest rfl
  have hsaved : before.foldl Request.keep (fun _ => none)
      = fun device => lastSaved device before := by
    funext device
    rw [Request.foldl_keep, Option.or_none]
  rw [hmemory', Request.getElem?_dueAll, hsaved]

/-- Two devices are saved and loaded in turn, one of them with a shorter context in the end. -/
def savedInTurn : List Request :=
  [.load "rtc" 2 1, .save "rtc" ⟨[1, 2, 3], [4], -60⟩, .save "alarm" ⟨[], [], 7⟩,
    .save "rtc" ⟨[5, 6], [7], 3600⟩, .load "rtc" 3 1, .load "rtc" 2 1, .load "alarm" 0 0]

/-- In a directory in a directory, neither of which is there at first. -/
theorem serveAll_eq_memory_savedInTurn :
    let made : FileTree := ⟨[(["a"], .directory), (["a", "saves"], .directory)]⟩
    let files := (((store "a/saves" : Store (StateM FileTree)).serveAll savedInTurn).run .empty).1
    (makeDirectories "a/saves" : StateM FileTree _).run .empty = (.ok (), made)
      ∧ (∀ device, Nameable "a/saves" device →
        made.readFile (path "a/saves" device) = .error (.opening .notFound))
      ∧ (∀ r ∈ savedInTurn, Takes "a/saves" r)
      ∧ files = ((MemoryStore.store.serveAll savedInTurn).run .empty).1
      ∧ files[5]? = some (.loaded (.ok (some ⟨[5, 6], [7], 3600⟩))) := by
  intro made files
  have hmake : (makeDirectories "a/saves" : StateM FileTree _).run .empty = (.ok (), made) := by
    rfl
  have hempty (name : String) : made.find? (["a", "saves"] ++ [name]) = none := by rfl
  have hfresh (device : String) (hdevice : Nameable "a/saves" device) :
      made.readFile (path "a/saves" device) = .error (.opening .notFound) :=
    readFile_of_empty (.inr ⟨by decide, by decide, by decide⟩) rfl hempty hdevice
  have hrs : ∀ r ∈ savedInTurn, Takes "a/saves" r := by
    have hrtc : Nameable "a/saves" "rtc" := ⟨⟨by decide, by decide, by decide⟩, by decide⟩
    have halarm : Nameable "a/saves" "alarm" := ⟨⟨by decide, by decide, by decide⟩, by decide⟩
    simp only [savedInTurn, List.forall_mem_cons]
    exact ⟨hrtc, ⟨hrtc, by decide, by decide⟩, ⟨halarm, by decide, by decide⟩,
      ⟨hrtc, by decide, by decide⟩, hrtc, hrtc, halarm, by simp⟩
  obtain ⟨hsame, -, hdue⟩ := serveAll_eq_memory hmake hfresh hrs
  refine ⟨hmake, hfresh, hrs, hsame, ?_⟩
  rw [show files = _ from hsame]
  exact (hdue (savedInTurn.take 5) _ [.load "alarm" 0 0] rfl).trans rfl

/-! ### Where they part -/

/-- A save file whose path is too long cannot be made, also in a directory that can. -/
theorem run_save_of_longPath
    (hmake : (makeDirectories dir : StateM FileTree _).run t = (.ok (), made))
    (hdevice : Plain device) (hlong : FileTree.pathLimit ≤ (path dir device).utf8ByteSize)
    (c : Context) :
    (save dir device c : StateM FileTree _).run t
      = (.error (.cannotCreate (path dir device) .nameTooLong), made) := by
  obtain ⟨husable, -⟩ := FileTree.isDirectory_iff_descend.mp
    (FileTree.makeDirectories_grown hmake).2
  have hwrite : made.writeFile (path dir device) c.encode = .error (.opening .nameTooLong) := by
    rw [FileTree.writeFile, FileTree.locate_of_long (hdevice.nul_path husable)
      (hdevice.path_ne_empty dir) hlong]
  rw [run_save hmake, hwrite]

/-- A path of one name with a number of slashes behind it. -/
def withSlashes (n : Nat) : String := "s" ++ String.ofList (List.replicate n '/')

theorem toList_withSlashes (n : Nat) : (withSlashes n).toList = 's' :: List.replicate n '/' := by
  simp [withSlashes]

theorem utf8ByteSize_withSlashes (n : Nat) : (withSlashes n).utf8ByteSize = n + 1 := by
  induction n with
  | zero => rfl
  | succ n ih =>
    have hnext : withSlashes (n + 1) = withSlashes n ++ "/" := by
      rw [withSlashes, withSlashes, List.replicate_succ', String.ofList_append,
        ← String.append_assoc]
    rw [hnext, String.utf8ByteSize_append, ih]
    rfl

theorem usable_withSlashes {n : Nat} (h : n + 1 < FileTree.pathLimit) : Usable (withSlashes n) where
  nul := by
    rw [toList_withSlashes]
    simp
  nonempty := by
    intro hempty
    have hsize := utf8ByteSize_withSlashes n
    rw [hempty] at hsize
    exact Nat.succ_ne_zero n hsize.symm
  short := by
    rw [utf8ByteSize_withSlashes]
    exact h

/-- As long as the path is not too long, the directory can be made. -/
theorem makeDirectories_withSlashes {n : Nat} (h : n + 1 < FileTree.pathLimit) :
    (makeDirectories (withSlashes n) : StateM FileTree _).run .empty
      = (.ok (), ⟨[(["s"], .directory)]⟩) := by
  have hnames : Path.names (withSlashes n) = [] ++ ["s"] := by
    rw [withSlashes, Path.names_append_slashes]
    rfl
  have hstart : FileTree.start (withSlashes n) = [] := by
    rw [FileTree.start, Path.isAbsolute, toList_withSlashes]
    rfl
  have hlocate : FileTree.empty.locate (withSlashes n) = .ok (.named ["s"] none) := by
    rw [FileTree.locate_of_names_eq_concat (usable_withSlashes h) hnames, hstart]
    rfl
  have hmake : FileTree.empty.makeDirectory (withSlashes n)
      = .ok (FileTree.empty.put ["s"] .directory) := by
    rw [FileTree.makeDirectory, hlocate]
  rw [makeDirectories, Path.ancestors,
    FileTree.run_settleFrom_cons (usable_withSlashes h).nonempty, hmake]
  rfl

/-- In an empty tree two directories are missing and can be made, and the device has a plain name.
The path of the first leaves no room for that of a save file; the path of the second leads through a
directory with the name of the save file.  A store in memory takes what neither of them does. -/
theorem serveAll_ne_memory_longPath :
    let rs : List Request := [.save "rtc" ⟨[1], [2], 3⟩]
    let replies (dir : String) :=
      (((store dir : Store (StateM FileTree)).serveAll rs).run .empty).1
    let memory := ((MemoryStore.store.serveAll rs).run .empty).1
    Plain "rtc" ∧ memory = [.saved (.ok ())]
      ∧ (makeDirectories (withSlashes 4090) : StateM FileTree _).run .empty
        = (.ok (), ⟨[(["s"], .directory)]⟩)
      ∧ replies (withSlashes 4090)
        = [.saved (.error (.cannotCreate (path (withSlashes 4090) "rtc") .nameTooLong))]
      ∧ replies (withSlashes 4090) ≠ memory
      ∧ (makeDirectories "rtc.rtc/.." : StateM FileTree _).run .empty
        = (.ok (), ⟨[(["rtc.rtc"], .directory)]⟩)
      ∧ replies "rtc.rtc/.."
        = [.saved (.error (.cannotCreate "rtc.rtc/../rtc.rtc" .isDirectory))]
      ∧ replies "rtc.rtc/.." ≠ memory := by
  intro rs replies memory
  have hplain : Plain "rtc" := ⟨by decide, by decide, by decide⟩
  have hmemory : memory = [.saved (.ok ())] := by rfl
  have hmake := makeDirectories_withSlashes (n := 4090) (by decide)
  have hlong : FileTree.pathLimit ≤ (path (withSlashes 4090) "rtc").utf8ByteSize := by
    have hsize := Path.le_utf8ByteSize_join hplain.isFileName.toIsName (withSlashes 4090)
    rw [utf8ByteSize_withSlashes, utf8ByteSize_fileName] at hsize
    exact Nat.le_trans (by decide) hsize
  have hreplies (dir : String) : replies dir
      = [.saved ((save dir "rtc" ⟨[1], [2], 3⟩ : StateM FileTree _).run .empty).1] := by
    have hserve := Store.run_serveAll_save (store dir) "rtc" ⟨[1], [2], 3⟩ FileTree.empty
    exact congrArg Prod.fst hserve
  have hslashes : replies (withSlashes 4090)
      = [.saved (.error (.cannotCreate (path (withSlashes 4090) "rtc") .nameTooLong))] := by
    rw [hreplies, run_save_of_longPath hmake hplain hlong]
  have hmakeThrough : (makeDirectories "rtc.rtc/.." : StateM FileTree _).run .empty
      = (.ok (), ⟨[(["rtc.rtc"], .directory)]⟩) := by rfl
  have hthrough : replies "rtc.rtc/.."
      = [.saved (.error (.cannotCreate "rtc.rtc/../rtc.rtc" .isDirectory))] := by
    rw [hreplies, run_save hmakeThrough]
    rfl
  refine ⟨hplain, hmemory, hmake, hslashes, ?_, hmakeThrough, hthrough, ?_⟩
  · rw [hslashes, hmemory]
    simp
  · rw [hthrough, hmemory]
    simp

end SaveDirectory

end ClockChip
