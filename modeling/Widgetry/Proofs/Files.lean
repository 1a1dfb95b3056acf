import Widgetry.File.Tree
import Widgetry.Proofs.Results
import Widgetry.Proofs.Table
import Widgetry.Proofs.Utf8

/-!
# Reading what was written

Writing a file replaces one place of the tree: `put_extends` shows that all directories stay where
they are and lose no names, so that every path that could be followed still leads to the same place.
Whether a file can be written at a path does not depend on its bytes (`IsWritable.write`), and they
are read back at the same path: `read_write`.
-/

namespace Widgetry

namespace FileTree

variable {root root' new : FileTree} {place target : List String}

/-! ## Places -/

/-- A place is reached through any of the places on the way. -/
theorem get?_append (place rest : List String) (root : FileTree) :
    root.get? (place ++ rest) = (root.get? place).bind (get? rest) := by
  induction place generalizing root with
  | nil => rfl
  | cons name place ih =>
      cases root with
      | file bytes => rfl
      | directory entries =>
          rw [List.cons_append, get?, get?]
          cases Table.get? name entries with
          | none => rfl
          | some tree => exact ih tree

/-- What is put into a directory stands there. -/
theorem get?_put {entries : List (String × FileTree)}
    (h : root.get? place = some (.directory entries)) (name : String) (new : FileTree) :
    (root.put (place ++ [name]) new).get? (place ++ [name]) = some new := by
  induction place generalizing root with
  | nil =>
      cases h
      rw [List.nil_append, put, get?, Table.get?_insert, if_pos rfl]
      rfl
  | cons first place ih =>
      cases root with
      | file bytes => cases h
      | directory others =>
          rw [get?] at h
          obtain ⟨tree, htree, hplace⟩ := Option.bind_eq_some_iff.mp h
          rw [List.cons_append, put, get?, Table.get?_insert, if_pos rfl, htree]
          exact ih hplace

/-- All directories of a tree are directories of another one at the same places, with the same names
at least. -/
def Extends (root root' : FileTree) : Prop :=
  ∀ place entries, root.get? place = some (.directory entries) →
    ∃ entries', root'.get? place = some (.directory entries') ∧
      ∀ name, Table.contains name entries = true → Table.contains name entries' = true

theorem Extends.refl (root : FileTree) : root.Extends root :=
  fun _ entries h => ⟨entries, h, fun _ => id⟩

/-- Putting something at a place that is no directory keeps all directories. -/
theorem put_extends (h : ∀ entries, root.get? target ≠ some (.directory entries))
    (new : FileTree) : root.Extends (root.put target new) := by
  induction target generalizing root with
  | nil =>
      intro place entries hplace
      cases root with
      | file bytes => cases place <;> cases hplace
      | directory others => exact absurd rfl (h others)
  | cons name target ih =>
      cases root with
      | file bytes => exact Extends.refl _
      | directory others =>
          intro place entries hplace
          cases place with
          | nil =>
              cases hplace
              exact ⟨_, rfl, fun _ hother => Table.contains_insert hother _⟩
          | cons first place =>
              rw [get?] at hplace
              obtain ⟨tree, htree, hplace⟩ := Option.bind_eq_some_iff.mp hplace
              rw [put, get?, Table.get?_insert]
              -- Only the entry that leads to the target changes, and what is below it only grows.
              split
              · rename_i hname
                subst hname
                rw [htree]
                refine ih (fun entries hentries => h entries ?_) place entries hplace
                rw [get?, htree]
                exact hentries
              · rw [htree]
                exact ⟨entries, hplace, fun _ => id⟩

/-! ## Paths -/

theorem entries_at_eq_ok {entries : List (String × FileTree)} :
    root.entriesAt place = .ok entries ↔ root.get? place = some (.directory entries) := by
  unfold entriesAt
  split <;> simp_all

/-- A piece of a path names an entry of a directory, if there is one. -/
structure IsName (piece : Text.Bytes) (name : String) : Prop where
  text : Text.Utf8.decode piece = .ok name
  not_empty : name ≠ ""
  not_dot : name ≠ "."
  not_dots : name ≠ ".."
  length_le : piece.length ≤ maxName

/-- Where a piece of a path leads from a place with the given entries. -/
inductive Leads (entries : List (String × FileTree)) (place : List String) (piece : Text.Bytes) :
    List String → Prop where
  | stay : Text.Utf8.decode piece = .ok "" ∨ Text.Utf8.decode piece = .ok "." →
      Leads entries place piece place
  | up : Text.Utf8.decode piece = .ok ".." → Leads entries place piece place.dropLast
  | down (name) : IsName piece name → Table.contains name entries = true →
      Leads entries place piece (place ++ [name])

/-- A text is a name if no other check applies to it. -/
theorem is_name_of {piece : Text.Bytes} {name : String}
    (hname : Text.Utf8.decode piece = .ok name)
    (hstay : ¬ ((Text.Utf8.decode piece).toOption = some "" ∨
      (Text.Utf8.decode piece).toOption = some "."))
    (hup : ¬ (Text.Utf8.decode piece).toOption = some "..")
    (hlength : ¬ maxName < piece.length) : IsName piece name := by
  rw [to_option_eq_some.mpr hname] at hstay hup
  refine ⟨hname, ?_, ?_, ?_, by omega⟩
  · rintro rfl
    exact hstay (.inl rfl)
  · rintro rfl
    exact hstay (.inr rfl)
  · rintro rfl
    exact hup rfl

/-- A name is followed if there is such an entry. -/
theorem step_of_is_name {entries : List (String × FileTree)} {piece : Text.Bytes} {name : String}
    (hentries : root.get? place = some (.directory entries)) (hname : IsName piece name) :
    root.step place piece =
      if Table.contains name entries then .ok (place ++ [name]) else .error .notFound := by
  have hlength : ¬ maxName < piece.length := Nat.not_lt.mpr hname.length_le
  unfold step
  rw [entries_at_eq_ok.mpr hentries]
  show ite _ _ _ = _
  rw [to_option_eq_some.mpr hname.text, if_neg (by simp [hname.not_empty, hname.not_dot]),
    if_neg (by simp [hname.not_dots]), if_neg hlength, Option.filter_some]
  cases Table.contains name entries <;> rfl

/-- A piece is followed in a directory, to the place where it leads. -/
theorem step_eq_ok {piece : Text.Bytes} :
    root.step place piece = .ok target ↔
      ∃ entries, root.get? place = some (.directory entries) ∧
        Leads entries place piece target := by
  constructor
  · intro h
    obtain ⟨entries, hentries, h⟩ := bind_eq_ok.mp h
    refine ⟨entries, entries_at_eq_ok.mp hentries, ?_⟩
    dsimp only at h
    split at h
    · rename_i hstay
      cases h
      rw [to_option_eq_some, to_option_eq_some] at hstay
      exact .stay hstay
    rename_i hstay
    split at h
    · rename_i hup
      cases h
      exact .up (to_option_eq_some.mp hup)
    rename_i hup
    split at h
    · cases h
    rename_i hlength
    split at h
    · rename_i name hname
      cases h
      obtain ⟨hname, hentry⟩ := Option.filter_eq_some_iff.mp hname
      exact .down name (is_name_of (to_option_eq_some.mp hname) hstay hup hlength) hentry
    · cases h
  · rintro ⟨entries, hentries, hleads⟩
    cases hleads with
    | stay hstay =>
        refine bind_eq_ok.mpr ⟨entries, entries_at_eq_ok.mpr hentries, ?_⟩
        rw [← to_option_eq_some, ← to_option_eq_some] at hstay
        exact if_pos hstay
    | up hup =>
        refine bind_eq_ok.mpr ⟨entries, entries_at_eq_ok.mpr hentries, ?_⟩
        dsimp only
        rw [to_option_eq_some.mpr hup, if_neg (by decide), if_pos rfl]
    | down name hname hentry => rw [step_of_is_name hentries hname, if_pos hentry]

/-- A text that is not found in a directory is a name. -/
theorem is_name_of_not_found {entries : List (String × FileTree)} {piece : Text.Bytes}
    {name : String} (hentries : root.get? place = some (.directory entries))
    (hname : Text.Utf8.decode piece = .ok name)
    (h : root.step place piece = .error .notFound) : IsName piece name := by
  unfold step at h
  rw [entries_at_eq_ok.mpr hentries] at h
  replace h : ite _ _ _ = _ := h
  split at h
  · cases h
  rename_i hstay
  split at h
  · cases h
  rename_i hup
  split at h
  · cases h
  rename_i hlength
  exact is_name_of hname hstay hup hlength

/-- A piece that can be followed leads to the same place in an extended tree. -/
theorem Extends.step (h : root.Extends root') {piece : Text.Bytes}
    (hstep : root.step place piece = .ok target) : root'.step place piece = .ok target := by
  obtain ⟨entries, hentries, hleads⟩ := step_eq_ok.mp hstep
  obtain ⟨entries', hentries', hnames⟩ := h place entries hentries
  refine step_eq_ok.mpr ⟨entries', hentries', ?_⟩
  cases hleads with
  | stay hstay => exact .stay hstay
  | up hup => exact .up hup
  | down name hname hentry => exact .down name hname (hnames name hentry)

/-- Pieces that can be followed lead to the same place in an extended tree. -/
theorem Extends.walk (h : root.Extends root') {pieces : List Text.Bytes}
    (hwalk : root.walk place pieces = .ok target) : root'.walk place pieces = .ok target := by
  unfold FileTree.walk at hwalk ⊢
  induction pieces generalizing place with
  | nil => exact hwalk
  | cons piece pieces ih =>
      rw [List.foldlM_cons] at hwalk ⊢
      obtain ⟨next, hstep, hrest⟩ := bind_eq_ok.mp hwalk
      exact bind_eq_ok.mpr ⟨next, h.step hstep, ih hrest⟩

/-- The place above a directory is a directory. -/
theorem get?_drop_last {entries : List (String × FileTree)}
    (h : root.get? place = some (.directory entries)) :
    ∃ entries', root.get? place.dropLast = some (.directory entries') := by
  rcases List.eq_nil_or_concat place with rfl | ⟨front, name, rfl⟩
  · exact ⟨entries, h⟩
  · rw [List.concat_eq_append, get?_append] at h
    rw [List.concat_eq_append, List.dropLast_concat]
    obtain ⟨tree, htree, hname⟩ := Option.bind_eq_some_iff.mp h
    cases tree with
    | file bytes => cases hname
    | directory others => exact ⟨others, htree⟩

end FileTree

namespace FileSystem

open FileTree

variable {fs fs' : FileSystem} {path : String} {bytes : Text.Bytes}

/-- The bytes of a path are cut into the bytes of its pieces. -/
theorem pieces_encode_path (path : String) :
    Text.pieces (· == slash) (Text.Utf8.encode path) =
      (Path.pieces path).map Text.Utf8.encode := by
  unfold Path.pieces Text.Utf8.encode slash
  rw [Text.Utf8.pieces_encode, List.map_map]
  refine List.map_congr_left fun piece _ => ?_
  rw [Function.comp_apply, String.toList_ofList]

/-- A path names an entry of a directory that is none itself: `place` is the directory, and `name`
is the last piece of the path. -/
structure Opens (fs : FileSystem) (path : String) (place : List String) (name : String) : Prop where
  checked : checkPath (Text.Utf8.encode path) = .ok ()
  followed : ∃ names, Path.pieces path = names ++ [name] ∧
    fs.root.walk (fs.start (Text.Utf8.encode path)) (names.map Text.Utf8.encode) = .ok place
  directory : ∃ entries, fs.root.get? place = some (.directory entries)
  isName : IsName (Text.Utf8.encode name) name
  free : ∀ entries, fs.root.get? (place ++ [name]) ≠ some (.directory entries)

/-- The last piece of a path that is followed to something else than a directory is a name. -/
theorem is_name_of_target {root : FileTree} {place target : List String} {name : String}
    {entries : List (String × FileTree)}
    (hentries : root.get? place = some (.directory entries))
    (hstep : root.step place (Text.Utf8.encode name) = .ok target)
    (hfree : ∀ others, root.get? target ≠ some (.directory others)) :
    IsName (Text.Utf8.encode name) name ∧ target = place ++ [name] := by
  obtain ⟨_, _, hleads⟩ := step_eq_ok.mp hstep
  cases hleads with
  | stay => exact absurd hentries (hfree entries)
  | up =>
      obtain ⟨others, hothers⟩ := get?_drop_last hentries
      exact absurd hothers (hfree others)
  | down other hname =>
      have htext := hname.text
      rw [Text.Utf8.decode_encode] at htext
      cases htext
      exact ⟨hname, rfl⟩

/-- A path that does not end in a slash has a last piece. -/
theorem pieces_eq_concat (h : ¬ ((Path.pieces path).getLast?.getD "").isEmpty = true) :
    ∃ names name, Path.pieces path = names ++ [name] ∧ name.isEmpty = false := by
  rcases List.eq_nil_or_concat (Path.pieces path) with hnil | ⟨names, name, hpieces⟩
  · rw [hnil] at h
    exact absurd rfl h
  · rw [List.concat_eq_append] at hpieces
    rw [hpieces, List.getLast?_concat, Option.getD_some, Bool.not_eq_true] at h
    exact ⟨names, name, hpieces, h⟩

/-- A path at which a file was written opens one. -/
theorem opens_of_write (h : fs.write path bytes = .ok fs') :
    ∃ place name, fs.Opens path place name ∧
      fs' = { fs with root := fs.root.put (place ++ [name]) (.file bytes) } := by
  obtain ⟨⟨⟩, hpath, h⟩ := bind_eq_ok.mp h
  dsimp only at h
  obtain ⟨place, hwalk, h⟩ := bind_eq_ok.mp h
  obtain ⟨entries, hentries, h⟩ := bind_eq_ok.mp h
  rw [entries_at_eq_ok] at hentries
  split at h
  · cases h
  rename_i hlast
  obtain ⟨names, name, hpieces, hempty⟩ := pieces_eq_concat hlast
  rw [hpieces, Text.drop_end_while_concat hempty, List.dropLast_concat] at hwalk
  rw [hpieces, List.getLast?_concat, Option.getD_some] at h
  refine ⟨place, name, ?_⟩
  -- The name is not there yet, or it is that of something that is no directory.
  split at h
  · rename_i hstep
    have hname := is_name_of_not_found hentries (Text.Utf8.decode_encode name) hstep
    obtain ⟨target, htarget, h⟩ := bind_eq_ok.mp h
    cases htarget
    split at h
    · cases h
    · rename_i hfree
      cases h
      exact ⟨⟨hpath, ⟨names, hpieces, hwalk⟩, ⟨entries, hentries⟩, hname, hfree⟩, rfl⟩
  · obtain ⟨target, hstep, h⟩ := bind_eq_ok.mp h
    split at h
    · cases h
    · rename_i hfree
      obtain ⟨hname, rfl⟩ := is_name_of_target hentries hstep hfree
      cases h
      exact ⟨⟨hpath, ⟨names, hpieces, hwalk⟩, ⟨entries, hentries⟩, hname, hfree⟩, rfl⟩

/-- Any bytes can be written at a path that opens a file. -/
theorem Opens.write {place : List String} {name : String} (h : fs.Opens path place name)
    (bytes : Text.Bytes) :
    fs.write path bytes =
      .ok { fs with root := fs.root.put (place ++ [name]) (.file bytes) } := by
  obtain ⟨names, hpieces, hwalk⟩ := h.followed
  obtain ⟨entries, hentries⟩ := h.directory
  have hempty : name.isEmpty = false := by
    rw [← Bool.not_eq_true, String.isEmpty_iff]
    exact h.isName.not_empty
  refine bind_eq_ok.mpr ⟨(), h.checked, bind_eq_ok.mpr ⟨place, ?_, ?_⟩⟩
  · rw [hpieces, Text.drop_end_while_concat hempty, List.dropLast_concat]
    exact hwalk
  refine bind_eq_ok.mpr ⟨entries, entries_at_eq_ok.mpr hentries, ?_⟩
  rw [hpieces, List.getLast?_concat, Option.getD_some, hempty, if_neg Bool.false_ne_true,
    step_of_is_name hentries h.isName]
  cases Table.contains name entries
  · simp only [Bool.false_eq_true, if_false, bind, Except.bind]
    split
    · rename_i others hothers
      exact absurd hothers (h.free others)
    · rfl
  · simp only [if_true, bind, Except.bind]
    split
    · rename_i others hothers
      exact absurd hothers (h.free others)
    · rfl

/-- **A file that was written is read back.** -/
theorem read_write (h : fs.write path bytes = .ok fs') :
    fs'.read (Text.Utf8.encode path) = .ok bytes := by
  obtain ⟨place, name, hopens, rfl⟩ := opens_of_write h
  obtain ⟨names, hpieces, hwalk⟩ := hopens.followed
  obtain ⟨entries, hentries⟩ := hopens.directory
  have hextends := put_extends hopens.free (.file bytes)
  have hfile := get?_put hentries name (.file bytes)
  obtain ⟨entries', hentries', _⟩ := hextends place entries hentries
  have hentry : Table.contains name entries' = true := by
    rw [get?_append, hentries', Option.bind_some, get?] at hfile
    obtain ⟨tree, htree, _⟩ := Option.bind_eq_some_iff.mp hfile
    unfold Table.contains
    rw [htree]
    rfl
  refine bind_eq_ok.mpr ⟨(), hopens.checked, bind_eq_ok.mpr ⟨place ++ [name], ?_, ?_⟩⟩
  · rw [pieces_encode_path, hpieces, List.map_append]
    unfold FileTree.walk
    rw [List.foldlM_append]
    refine bind_eq_ok.mpr ⟨place, hextends.walk hwalk, ?_⟩
    rw [List.map_singleton, List.foldlM_cons, step_of_is_name hentries' hopens.isName,
      if_pos hentry]
    rfl
  · dsimp only
    rw [hfile]

/-- A text that was written is read back. -/
theorem read_text_write {text : String}
    (h : fs.write path (Text.Utf8.encode text) = .ok fs') : fs'.readText path = .ok text := by
  unfold readText FileFault.textOf
  rw [read_write h]
  show (Text.Utf8.decode (Text.Utf8.encode text)).mapError _ = _
  rw [Text.Utf8.decode_encode, map_error_ok]

/-- Some text can be written at the path. -/
def IsWritable (fs : FileSystem) (path : String) : Prop :=
  ∃ text fs', fs.write path (Text.Utf8.encode text) = .ok fs'

/-- If some text can be written at a path, all can. -/
theorem IsWritable.write (h : fs.IsWritable path) (bytes : Text.Bytes) :
    ∃ fs', fs.write path bytes = .ok fs' := by
  obtain ⟨_, _, h⟩ := h
  obtain ⟨place, name, hopens, _⟩ := opens_of_write h
  exact ⟨_, hopens.write bytes⟩

end FileSystem

end Widgetry
