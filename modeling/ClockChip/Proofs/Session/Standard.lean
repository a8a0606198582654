import ClockChip.Proofs.Session.Bench
import ClockChip.Proofs.Store.Interchange

/-!
# Sessions under the standard settings

Without a settings file a session saves to one file, in one directory next to where it runs.  A
tree can have something else in the place of either; as long as it has not, the directory is made
when it is needed and the file can be written.  A save touches these two places only.

The chip of such a session starts from what the file has, or from zeros if there is none.  When it
is powered down the file has what the chip keeps, and it is not written if it had that already.  If
something is in the way, one of the two fails, and the file is as it was.

## Main definitions

* `saveFile`, `FileTree.Writable`: the save file, and trees in which nothing is in its way.
* `FileTree.savedContext`: what the save file has.
* `FileTree.Leaves`: what a run makes of it.

## Main results

* `FileTree.readFile_saveFile`, `FileTree.run_save_standard`: reading and writing the save file.
* `FileTree.run_load_standard`: without a settings file the standard settings hold.
* `Bench.run_powerUp_standard`, `Bench.run_powerDown_standard`: **both ends of a session.**
-/

namespace ClockChip

/-- The path of the save file under the standard settings. -/
def saveFile : String := SaveDirectory.path Settings.standard.savesDir Settings.standard.device

namespace FileTree

/-- The place of the settings file. -/
def settingsPlace : Place := ["pcf8583.toml"]

/-- The place of the directory of save files. -/
def savesPlace : Place := ["saves"]

/-- The place of the save file. -/
def savePlace : Place := ["saves", "pcf8583.rtc"]

/-- Nothing stands in the way of the save file: no file is where its directory should be, and no
directory in its own place. -/
structure Writable (t : FileTree) : Prop where
  saves : ∀ content, t.find? savesPlace ≠ some (.file content)
  saveFile : t.find? savePlace ≠ some .directory

variable {t : FileTree}

/-! ### Paths -/

theorem locate_settings (t : FileTree) : t.locate Invocation.standardConfigFile
    = .ok (.named settingsPlace (t.find? settingsPlace)) := by
  have husable : Usable Invocation.standardConfigFile := ⟨by decide, by decide, by decide⟩
  have hnames : Path.names Invocation.standardConfigFile = ["."] ++ ["pcf8583.toml"] := by decide
  rw [locate_of_names_eq_concat husable hnames]
  rfl

theorem usable_saves : Usable "./saves" := ⟨by decide, by decide, by decide⟩

theorem locate_saves (t : FileTree) :
    t.locate "./saves" = .ok (.named savesPlace (t.find? savesPlace)) := by
  have hnames : Path.names "./saves" = ["."] ++ ["saves"] := by decide
  rw [locate_of_names_eq_concat usable_saves hnames]
  rfl

theorem descend_saves (t : FileTree) : t.descend "./saves"
    = match t.find? savesPlace with
      | none => .error .notFound
      | some (.file _) => .error .notDirectory
      | some .directory => .ok savesPlace := by
  have hnames : Path.names "./saves" = ["."] ++ ["saves"] := by decide
  have hstart : start "./saves" = [] := rfl
  rw [descend, hnames, enter_append, hstart]
  exact enter_singleton t [] "saves"

theorem isFileName_saveFile : IsFileName ("pcf8583" ++ ".rtc") :=
  ⟨⟨by decide, by decide⟩, by decide, by decide, by decide⟩

theorem usable_saveFile : Usable (Path.join "./saves" ("pcf8583" ++ ".rtc")) :=
  ⟨by decide, by decide, by decide⟩

/-- What is read of the save file. -/
theorem readFile_saveFile (t : FileTree) : t.readFile saveFile
    = match t.find? savesPlace with
      | none => .error (.opening .notFound)
      | some (.file _) => .error (.opening .notDirectory)
      | some .directory =>
        match t.find? savePlace with
        | none => .error (.opening .notFound)
        | some .directory => .error (.transfer .isDirectory)
        | some (.file content) => .ok content := by
  have hdescend := descend_saves t
  rcases hsaves : t.find? savesPlace with _ | content | _
  · rw [hsaves] at hdescend
    exact readFile_join_of_notFound isFileName_saveFile usable_saveFile hdescend
  · rw [hsaves] at hdescend
    show t.readFile (Path.join "./saves" ("pcf8583" ++ ".rtc")) = _
    rw [readFile, locate_join isFileName_saveFile usable_saveFile, hdescend]
    rfl
  · rw [hsaves] at hdescend
    exact readFile_join isFileName_saveFile usable_saveFile hdescend

/-! ### Loading and saving -/

/-- **Without a settings file the standard settings hold.** -/
theorem run_load_standard (h : t.find? settingsPlace = none) :
    (Settings.load Invocation.standardConfigFile : StateM FileTree _).run t
      = (.ok .standard, t) := by
  have hread : t.readFile Invocation.standardConfigFile = .error (.opening .notFound) := by
    rw [readFile, locate_settings, h]
  rw [Settings.run_load, hread]

/-- The directory of save files is made if it is missing, and nothing else changes. -/
theorem run_makeDirectories_saves (t : FileTree) :
    (∃ content, t.find? savesPlace = some (.file content)
        ∧ (makeDirectories "./saves" : StateM FileTree _).run t = (.error .alreadyExists, t))
      ∨ ∃ made, (makeDirectories "./saves" : StateM FileTree _).run t = (.ok (), made)
        ∧ made.find? savesPlace = some .directory
        ∧ ∀ place, place ≠ savesPlace → made.find? place = t.find? place := by
  have hmake : (makeDirectories "./saves" : StateM FileTree _).run t
      = (settleFrom ("./saves" :: Path.parents "./saves") : StateM FileTree _).run t := rfl
  rcases hsaves : t.find? savesPlace with _ | content | _
  · right
    have hmade : t.makeDirectory "./saves" = .ok (t.put savesPlace .directory) := by
      rw [makeDirectory, locate_saves, hsaves]
    refine ⟨t.put savesPlace .directory, ?_, find?_put_self (by decide) t .directory,
      fun place hne => find?_put_of_ne hne t .directory⟩
    rw [hmake, run_settleFrom_cons (by decide), hmade]
  · left
    have hmade : t.makeDirectory "./saves" = .error .alreadyExists := by
      rw [makeDirectory, locate_saves, hsaves]
    have hnot : t.isDirectory "./saves" = false := by rw [isDirectory, locate_saves, hsaves]
    refine ⟨content, rfl, ?_⟩
    rw [hmake, run_settleFrom_cons (by decide), hmade, hnot]
    rfl
  · right
    have hthere : t.isDirectory "./saves" = true := by rw [isDirectory, locate_saves, hsaves]
    exact ⟨t, makeDirectories_of_isDirectory (.inr hthere), hsaves, fun _ _ => rfl⟩

/-- In its directory the save file is written unless there is a directory in its place. -/
theorem writeFile_saveFile (h : t.find? savesPlace = some .directory) (content : List UInt8) :
    t.writeFile saveFile content
      = if t.find? savePlace = some .directory then .error (.opening .isDirectory)
        else .ok (t.put savePlace (.file content)) := by
  have hdescend : t.descend "./saves" = .ok savesPlace := by rw [descend_saves, h]
  split
  case isTrue hdirectory =>
    have hlocate : t.locate saveFile = .ok (.named savePlace (some .directory)) := by
      rw [← hdirectory]
      show t.locate (Path.join "./saves" ("pcf8583" ++ ".rtc")) = _
      rw [locate_join isFileName_saveFile usable_saveFile, hdescend]
      rfl
    rw [writeFile, hlocate]
  case isFalse hdirectory =>
    exact writeFile_join isFileName_saveFile usable_saveFile hdescend hdirectory content

/-- As long as something stands in its way there is no save file. -/
theorem readFile_ne_ok_of_directory (h : t.find? savePlace = some .directory)
    (content : List UInt8) : t.readFile saveFile ≠ .ok content := by
  rw [readFile_saveFile]
  rcases t.find? savesPlace with _ | _ | _
  · exact fun hok => by cases hok
  · exact fun hok => by cases hok
  · rw [h]
    exact fun hok => by cases hok

theorem readFile_ne_ok_of_file {old : List UInt8} (h : t.find? savesPlace = some (.file old))
    (content : List UInt8) : t.readFile saveFile ≠ .ok content := by
  rw [readFile_saveFile, h]
  exact fun hok => by cases hok

/-- **A save to the standard place** writes the save file, or fails because something stands in its
way.  Then there was no save file and there is none.  Nothing becomes a settings file. -/
theorem run_save_standard (t : FileTree) (c : Context) :
    ∃ r t', (SaveDirectory.save "./saves" "pcf8583" c : StateM FileTree _).run t = (r, t')
      ∧ t'.find? settingsPlace = t.find? settingsPlace
      ∧ (r = .ok () ∧ t'.readFile saveFile = .ok c.encode ∧ t'.Writable
        ∨ (∃ e, r = .error e) ∧ ¬ t.Writable
          ∧ (∀ content, t.readFile saveFile ≠ .ok content)
          ∧ ∀ content, t'.readFile saveFile ≠ .ok content) := by
  rcases run_makeDirectories_saves t with ⟨old, hsaves, hmake⟩ | ⟨made, hmake, hsaves, hother⟩
  · refine ⟨.error (.cannotCreate "./saves" .alreadyExists), t, ?_, rfl,
      .inr ⟨⟨_, rfl⟩, ?_, ?_, ?_⟩⟩
    · rw [SaveDirectory.save, run_bind_of hmake]
      rfl
    · exact fun h => h.saves old hsaves
    · exact readFile_ne_ok_of_file hsaves
    · exact readFile_ne_ok_of_file hsaves
  · have hplace : made.find? savePlace = t.find? savePlace := hother _ (by decide)
    have hsettings : made.find? settingsPlace = t.find? settingsPlace := hother _ (by decide)
    have hsave : (SaveDirectory.save "./saves" "pcf8583" c : StateM FileTree _).run t = _ :=
      SaveDirectory.run_save hmake c
    have hwrite := writeFile_saveFile hsaves c.encode
    change made.writeFile (SaveDirectory.path "./saves" "pcf8583") c.encode = _ at hwrite
    rw [hwrite, hplace] at hsave
    by_cases hdirectory : t.find? savePlace = some .directory
    · rw [if_pos hdirectory] at hsave
      refine ⟨_, made, hsave, hsettings, .inr ⟨⟨_, rfl⟩, ?_, ?_, ?_⟩⟩
      · exact fun h => h.saveFile hdirectory
      · exact readFile_ne_ok_of_directory hdirectory
      · exact readFile_ne_ok_of_directory (hplace.trans hdirectory)
    · rw [if_neg hdirectory] at hsave
      have hput : (made.put savePlace (.file c.encode)).find? savePlace = some (.file c.encode) :=
        find?_put_self (by decide) made _
      have hsaves' : (made.put savePlace (.file c.encode)).find? savesPlace = some .directory := by
        rw [find?_put_of_ne (by decide), hsaves]
      refine ⟨_, _, hsave, ?_, .inl ⟨rfl, ?_, ?_, ?_⟩⟩
      · rw [find?_put_of_ne (by decide), hsettings]
      · rw [readFile_saveFile, hsaves', hput]
      · simp [hsaves']
      · simp [hput]

end FileTree

/-! ### What is saved -/

/-- What the save file has; a chip starts from zeros if there is none. -/
def FileTree.savedContext (t : FileTree) : Except DecodeError Context :=
  match t.readFile saveFile with
  | .ok content => Context.decoder.decode content
  | .error _ => .ok (.blank ramSize registerCount)

namespace FileTree

variable {t : FileTree} {c : Context}

theorem savedContext_of_readFile (hread : t.readFile saveFile = .ok c.encode) (hc : c.Counted) :
    t.savedContext = .ok c := by
  rw [savedContext, hread]
  exact Context.decode_eq_ok_iff.mpr ⟨hc, List.prefix_rfl⟩

theorem savedContext_of_missing (h : ∀ content, t.readFile saveFile ≠ .ok content) :
    t.savedContext = .ok (.blank ramSize registerCount) := by
  rw [savedContext]
  split
  case h_1 content hread => exact absurd hread (h content)
  case h_2 => rfl

theorem content?_of_missing (h : ∀ content, t.readFile saveFile ≠ .ok content) :
    t.content? saveFile = none := by
  rw [content?]
  rcases hread : t.readFile saveFile with e | content
  · rfl
  · exact absurd hread (h content)

/-- A chip is powered up with what is saved, unless something stands in the way of the save file. -/
theorem run_load_of_savedContext (h : t.savedContext = .ok c)
    (hfits : c.Fits ramSize registerCount) :
    ∃ r, (SaveDirectory.load "./saves" "pcf8583" ramSize registerCount : StateM FileTree _).run t
        = (r, t)
      ∧ ((∃ found, r = .ok found ∧ Chip.adopted found = c)
        ∨ (∃ e, r = .error e) ∧ ¬ t.Writable) := by
  have hpath : SaveDirectory.path "./saves" "pcf8583" = saveFile := rfl
  refine ⟨_, SaveDirectory.run_load t "./saves" "pcf8583" ramSize registerCount, ?_⟩
  rw [savedContext] at h
  rw [hpath]
  have hread := readFile_saveFile t
  rcases hsaves : t.find? savesPlace with _ | old | _
  · -- not even the directory has been made
    rw [hsaves] at hread
    rw [hread] at h ⊢
    exact .inl ⟨none, rfl, Except.ok.inj h⟩
  · -- a file stands where it should be, which is not the same as nothing
    rw [hsaves] at hread
    rw [hread]
    exact .inr ⟨⟨_, rfl⟩, fun hwritable => hwritable.saves old hsaves⟩
  · rw [hsaves] at hread
    rcases hplace : t.find? savePlace with _ | content | _
    · rw [hplace] at hread
      rw [hread] at h ⊢
      exact .inl ⟨none, rfl, Except.ok.inj h⟩
    · rw [hplace] at hread
      rw [hread] at h ⊢
      dsimp only
      refine .inl ⟨some c, ?_, ?_⟩
      · rw [SaveDirectory.interpret_of_ok h, if_pos hfits]
      · rw [Chip.adopted, Context.fitting_some, if_pos hfits]
        rfl
    · rw [hplace] at hread
      rw [hread]
      exact .inr ⟨⟨_, rfl⟩, fun hwritable => hwritable.saveFile hplace⟩

/-- What a run makes of the save file.  It succeeds with new content, tells whether this is
different, and leaves everything as it was if it is not; or it fails because something stands in
the way, and the save file is what it was. -/
inductive Leaves {ε : Type} (t : FileTree) (saved new : Context) : Except ε Bool → FileTree → Prop
  /-- The new content is saved, or was there already. -/
  | succeeded (t' : FileTree) (hsaved : t'.savedContext = .ok new) (hsame : new = saved → t' = t)
      (hwritable : t.Writable → t'.Writable) : Leaves t saved new (.ok (decide (new ≠ saved))) t'
  /-- There is an error, and the save file is untouched. -/
  | failed (e : ε) (t' : FileTree) (hnot : ¬ t.Writable) (hsaved : t'.savedContext = .ok saved)
      (hfile : t'.content? saveFile = t.content? saveFile) : Leaves t saved new (.error e) t'

/-- The errors of a run may be told in other words. -/
theorem Leaves.mapError {ε ε' : Type} {saved new : Context} {r : Except ε Bool} {t' : FileTree}
    (h : Leaves t saved new r t') (f : ε → ε') : Leaves t saved new (r.mapError f) t' := by
  cases h with
  | succeeded _ hsaved hsame hwritable => exact .succeeded t' hsaved hsame hwritable
  | failed e _ hnot hsaved hfile => exact .failed (f e) t' hnot hsaved hfile

end FileTree

/-! ### Sessions under the standard settings -/

namespace Bench

variable {b : Bench} {command : Command}

/-- Without a settings file a command line without options is carried out under the standard
settings. -/
theorem session_of_parse {words : List String}
    (hparse : Invocation.parse words
      = .ok ⟨Invocation.standardConfigFile, none, none, false, command⟩)
    (h : b.files.find? FileTree.settingsPlace = none) :
    b.session words = (Session.carryOut .standard command : StateM Bench _).run b := by
  have hsettings :=
    run_settings ⟨Invocation.standardConfigFile, none, none, false, command⟩ b
  rw [FileTree.run_load_standard h] at hsettings
  rw [session, Session.run, hparse]
  dsimp only
  rw [run_bind_of hsettings]
  rfl

/-- The chip is powered up with what is saved, unless something stands in the way. -/
theorem run_powerUp_standard {saved : Context} (h : b.files.savedContext = .ok saved)
    (hfits : saved.Fits ramSize registerCount) :
    (Chip.powerUp (SaveDirectory.store Settings.standard.savesDir) Settings.standard.device :
        StateM Bench _).run b = (.ok (Chip.ofContext "pcf8583" saved), b)
      ∨ (∃ e, (Chip.powerUp (SaveDirectory.store Settings.standard.savesDir)
          Settings.standard.device : StateM Bench _).run b = (.error e, b))
        ∧ ¬ b.files.Writable := by
  obtain ⟨r, hload, hr⟩ := FileTree.run_load_of_savedContext h hfits
  have hbench : ((SaveDirectory.store Settings.standard.savesDir).load Settings.standard.device
      ramSize registerCount : StateM Bench _).run b = (r, b) := by
    refine (run_load "./saves" "pcf8583" ramSize registerCount b).trans ?_
    rw [hload]
  rw [Chip.powerUp, run_bind_of hbench]
  rcases hr with ⟨found, rfl, rfl⟩ | ⟨⟨e, rfl⟩, hnot⟩
  · exact .inl rfl
  · exact .inr ⟨⟨e, rfl⟩, hnot⟩

/-- A chip is powered down: what it keeps is saved if it differs from what is saved already. -/
theorem run_powerDown_standard {c : Chip} {saved : Context} (hdevice : c.device = "pcf8583")
    (hbaseline : c.baseline = saved) (hcounted : c.context.Counted)
    (h : b.files.savedContext = .ok saved) :
    ∃ r t', (c.powerDown (SaveDirectory.store Settings.standard.savesDir)
        Settings.standard.saveOnExit : StateM Bench _).run b = (r, { b with files := t' })
      ∧ t'.find? FileTree.settingsPlace = b.files.find? FileTree.settingsPlace
      ∧ b.files.Leaves saved c.context r t' := by
  have hchanged : c.hasUnsaved = decide (c.context ≠ saved) := by
    rw [Chip.hasUnsaved, hbaseline, bne, decide_not]
    rfl
  by_cases hsame : c.context = saved
  -- the store is not even called
  · have hsaved : c.hasUnsaved = false := by simp [hchanged, hsame]
    refine ⟨.ok false, b.files, ?_, rfl, ?_⟩
    · exact run_powerDown_of_saveChanges (Chip.saveChanges_of_saved _ hsaved b)
    · have hleaves : b.files.Leaves saved c.context (.ok (decide (c.context ≠ saved)) :
          Except StoreError Bool) b.files :=
        .succeeded b.files (by rw [hsame]; exact h) (fun _ => rfl) id
      simpa [hsame] using hleaves
  · have hunsaved : c.hasUnsaved = true := by simp [hchanged, hsame]
    obtain ⟨r, t', hsave, hsettings, hcases⟩ := FileTree.run_save_standard b.files c.context
    have hbench : ((SaveDirectory.store Settings.standard.savesDir).save c.device c.context :
        StateM Bench _).run b = (r, { b with files := t' }) := by
      rw [hdevice]
      refine (run_save "./saves" "pcf8583" c.context b).trans ?_
      rw [hsave]
    rcases hcases with ⟨rfl, hread, hwritable⟩ | ⟨⟨e, rfl⟩, hnot, hmissing, hmissing'⟩
    · refine ⟨.ok true, t', ?_, hsettings, ?_⟩
      · exact run_powerDown_of_saveChanges (Chip.saveChanges_of_taken hunsaved hbench)
      · have hleaves : b.files.Leaves saved c.context (.ok (decide (c.context ≠ saved)) :
            Except StoreError Bool) t' :=
          .succeeded t' (FileTree.savedContext_of_readFile hread hcounted)
            (fun hcontext => absurd hcontext hsame) fun _ => hwritable
        simpa [hsame] using hleaves
    · refine ⟨.error e, t', ?_, hsettings, .failed e t' hnot ?_ ?_⟩
      · exact run_powerDown_of_saveChanges (Chip.saveChanges_of_refused hunsaved hbench)
      · rw [FileTree.savedContext_of_missing hmissing']
        exact (FileTree.savedContext_of_missing hmissing).symm.trans h
      · rw [FileTree.content?_of_missing hmissing', FileTree.content?_of_missing hmissing]

end Bench

end ClockChip
