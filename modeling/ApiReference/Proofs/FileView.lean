import ApiReference.File.Store

/-! ## What accesses to files do to them

A file system is seen through a view: what lies at each place, and where paths lead.
Lawful access changes the view only by writing, and then in one place only. The access
to the files of a store is lawful. -/

namespace ApiReference

/-- What can be seen of a file system: what lies at each place, and the place of the
file that a path names or would name. -/
structure FileView (Place : Type) where
  entry : Place → Option Entry
  place : (path : Text) → Option Place

def FileView.text {Place : Type} (view : FileView Place) (path : Text) : Option Text :=
  match (view.place path).bind view.entry with
  | some (.file content) => Store.decode content
  | _ => none

theorem FileView.text_eq_decode {Place : Type} {view : FileView Place} {path : Text}
    {place : Place} {content : ByteArray} (named : view.place path = some place)
    (isFile : view.entry place = some (.file content)) :
    view.text path = Store.decode content := by
  rw [FileView.text, named, Option.bind_some, isFile]

/-- What is written can be read again. -/
theorem Store.decode_encode (text : Text) : decode (encode text) = some text := by
  have valid : (String.ofList text).toUTF8.IsValidUTF8 :=
    (String.ofList text).isValidUTF8
  have decoded :
      String.fromUTF8? (String.ofList text).toUTF8 = some (String.ofList text) :=
    dif_pos valid
  rw [decode, encode, decoded, Option.map_some, String.toList_ofList]

/-- The laws of access to files. To ask for a path or to read a file changes nothing
that can be seen, and neither does writing a file in vain. A file that was written holds
the text given, and all other places are as they were. -/
structure FileAccess.Lawful {σ Place : Type} (files : FileAccess (StateM σ))
    (view : σ → FileView Place) : Prop where
  holds_keeps : ∀ {path found before after},
    (files.holds path).run before = (found, after) → view after = view before
  read_keeps : ∀ {path source before after},
    (files.read path).run before = (source, after) → view after = view before
  read_text : ∀ {path text before after},
    (files.read path).run before = (some text, after) →
      (view before).text path = some text
  write_failed : ∀ {path content before after},
    (files.write path content).run before = (false, after) → view after = view before
  write_done : ∀ {path content before after},
    (files.write path content).run before = (true, after) →
      ∃ place,
        (view before).place path = some place ∧
          (view after).place path = some place ∧
          (view after).entry place = some (.file (Store.encode content)) ∧
          ∀ other, other ≠ place → (view after).entry other = (view before).entry other

/-! ### Stores -/

namespace Store

/-! #### Putting an entry -/

theorem find?_put_self {place : Place} (named : place ≠ []) (store : Store)
    (entry : Entry) : (store.put place entry).find? place = some entry := by
  simp [find?, put, named]

theorem lookup_filter_ne {place other : Place} (different : other ≠ place)
    (entries : List (Place × Entry)) :
    (entries.filter (·.1 ≠ place)).lookup other = entries.lookup other := by
  induction entries with
  | nil =>
      rfl
  | cons first rest inductionHypothesis =>
      obtain ⟨firstPlace, entry⟩ := first
      by_cases same : firstPlace = place
      · subst same
        rw [List.filter_cons_of_neg (by simp), inductionHypothesis, List.lookup_cons,
          beq_eq_false_iff_ne.mpr different]
      · rw [List.filter_cons_of_pos (by simp [same]), List.lookup_cons,
          List.lookup_cons, inductionHypothesis]

theorem find?_put_of_ne {place other : Place} (different : other ≠ place)
    (store : Store) (entry : Entry) :
    (store.put place entry).find? other = store.find? other := by
  unfold find? put
  by_cases root : other.isEmpty = true
  · simp [root]
  · rw [if_neg root, if_neg root, List.lookup_cons,
      beq_eq_false_iff_ne.mpr different]
    exact lookup_filter_ne different store.entries

/-! #### Writing a file -/

theorem ne_nil_of_not_isFolder {store : Store} {place : Place}
    (notFolder : store.isFolder place = false) : place ≠ [] := by
  rintro rfl
  simp [isFolder, find?] at notFolder

theorem filePlace_eq_some_iff {store : Store} {path : Text} {place : Place} :
    store.filePlace path = some place ↔
      store.locate path = some place ∧ wantsFolder path = false ∧
        store.isFolder place = false := by
  unfold filePlace
  cases store.locate path with
  | none =>
      simp
  | some found =>
      by_cases refused : (wantsFolder path || store.isFolder found) = true
      · simp only [Option.bind_eq_bind, Option.bind_some, refused, if_true]
        simp only [Bool.or_eq_true] at refused
        constructor
        · intro impossible
          cases impossible
        · rintro ⟨same, plain, notFolder⟩
          cases same
          simp [plain, notFolder] at refused
      · simp only [Option.bind_eq_bind, Option.bind_some, refused,
          Bool.false_eq_true, if_false]
        simp only [Bool.or_eq_true, not_or, Bool.not_eq_true] at refused
        constructor
        · intro same
          cases same
          exact ⟨rfl, refused⟩
        · exact And.left

/-- A file in the place of another one, or of none, makes no place a folder and no
folder another place. -/
theorem isFolder_put_file {store : Store} {place : Place}
    (notFolder : store.isFolder place = false) (content : ByteArray) (other : Place) :
    (store.put place (.file content)).isFolder other = store.isFolder other := by
  by_cases same : other = place
  · subst same
    rw [notFolder, isFolder, find?_put_self (ne_nil_of_not_isFolder notFolder)]
  · rw [isFolder, isFolder, find?_put_of_ne same]

/-- A file that takes no folder's place leads no path elsewhere. -/
theorem locate_put_file {store : Store} {place : Place}
    (notFolder : store.isFolder place = false) (content : ByteArray) (path : Text) :
    (store.put place (.file content)).locate path = store.locate path := by
  have sameStep : (store.put place (.file content)).step = store.step := by
    funext from_ name
    simp only [step, isFolder_put_file notFolder]
  rw [locate, locate, sameStep]
  rfl

/-- Once a file is written, every path names the file it named before. -/
theorem filePlace_put_file {store : Store} {place : Place}
    (notFolder : store.isFolder place = false) (content : ByteArray) (path : Text) :
    (store.put place (.file content)).filePlace path = store.filePlace path := by
  simp only [filePlace, locate_put_file notFolder, isFolder_put_file notFolder]

/-! #### The laws -/

def view (store : Store) : FileView Place :=
  ⟨store.find?, store.filePlace⟩

theorem view_text_of_readText {store : Store} {path text : Text}
    (read : store.readText path = some text) : store.view.text path = some text := by
  unfold readText entryAt at read
  cases found : store.locate path with
  | none =>
      simp [found] at read
  | some place =>
      cases lies : store.find? place with
      | none =>
          simp [found, lies] at read
      | some entry =>
          cases entry with
          | folder =>
              simp [found, lies] at read
          | file content =>
              have notFolder : store.isFolder place = false := by
                simp [isFolder, lies]
              have plain : wantsFolder path = false := by
                cases wants : wantsFolder path with
                | false =>
                    rfl
                | true =>
                    simp [found, notFolder, wants] at read
              have named : store.filePlace path = some place :=
                filePlace_eq_some_iff.mpr ⟨found, plain, notFolder⟩
              simpa [found, lies, plain, FileView.text, view, named] using read

theorem access_write_run (path content : Text) (store : Store) :
    (access.write path content).run store =
      match store.writeFile path (encode content) with
      | some written => (true, written)
      | none => (false, store) := by
  change (match store.writeFile path (encode content) with
    | some written => _
    | none => _ : StateM Store Bool).run store = _
  cases store.writeFile path (encode content) <;> rfl

/-- The store obeys the laws of access to files. -/
theorem access_lawful : access.Lawful view := by
  constructor
  · intro path found before after ran
    cases ran
    rfl
  · intro path source before after ran
    cases ran
    rfl
  · intro path text before after ran
    exact view_text_of_readText (Prod.mk.inj ran).1
  · intro path content before after failed
    rw [access_write_run] at failed
    cases written : before.writeFile path (encode content) with
    | none =>
        rw [written] at failed
        cases failed
        rfl
    | some store =>
        rw [written] at failed
        cases failed
  · intro path content before after done
    rw [access_write_run] at done
    cases named : before.filePlace path with
    | none =>
        have refused : before.writeFile path (encode content) = none := by
          simp [writeFile, named]
        rw [refused] at done
        cases done
    | some place =>
        have notFolder := (filePlace_eq_some_iff.mp named).2.2
        have written :
            before.writeFile path (encode content) =
              some (before.put place (.file (encode content))) := by
          simp [writeFile, named]
        rw [written] at done
        cases done
        refine ⟨place, named, ?_, ?_, ?_⟩
        · exact (filePlace_put_file notFolder _ path).trans named
        · exact find?_put_self (ne_nil_of_not_isFolder notFolder) before _
        · intro other different
          exact find?_put_of_ne different before _

end Store

end ApiReference
