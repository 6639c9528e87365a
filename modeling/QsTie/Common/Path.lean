import QsTie.Common.Python

/-!
# Paths (`os.path.join`, and what `open` makes of a path)

Which file a path names is a matter of the file system: of the directory of the
process, of links, and of what `..` leads to.  `Names` is any such assignment that
does not look at repeated slashes and single dots, and two paths may well name one
file.  Where no component is a link, a path is followed piece by piece from the
root or from the directory of the process (`resolve`).
-/

namespace QsTie

/-- `text.split(sep)` for one character, on the characters of a string. -/
def splitChars (sep : Char) : List Char → List (List Char)
  | [] => [[]]
  | c :: rest =>
    if c = sep then [] :: splitChars sep rest
    else
      match splitChars sep rest with
      | [] => [[c]]
      | piece :: pieces => (c :: piece) :: pieces

/-- `text.split(sep)`. -/
def splitOnChar (sep : Char) (text : String) : List String :=
  (splitChars sep text.toList).map String.ofList

example : splitOnChar ',' "RAW,,NIA" = ["RAW", "", "NIA"] := by decide

theorem splitChars_ne_nil (sep : Char) (text : List Char) : splitChars sep text ≠ [] := by
  cases text with
  | nil => simp [splitChars]
  | cons c rest =>
    simp only [splitChars]
    split
    · simp
    · split <;> simp

/-- Splitting at a separator splits both sides of it. -/
theorem splitChars_append_cons (sep : Char) (text more : List Char) :
    splitChars sep (text ++ sep :: more) = splitChars sep text ++ splitChars sep more := by
  induction text with
  | nil => simp [splitChars]
  | cons c rest ih =>
    simp only [List.cons_append, splitChars, ih]
    by_cases hc : c = sep
    · simp only [hc, if_true, List.cons_append]
    · simp only [hc, if_false]
      cases hpieces : splitChars sep rest with
      | nil => exact absurd hpieces (splitChars_ne_nil sep rest)
      | cons piece pieces => rfl

/-- A text without the separator is one piece. -/
theorem splitChars_of_not_mem {sep : Char} {text : List Char} (h : sep ∉ text) :
    splitChars sep text = [text] := by
  induction text with
  | nil => rfl
  | cons c rest ih =>
    obtain ⟨hc, hrest⟩ := not_or.mp (fun hmem => h (List.mem_cons.mpr hmem))
    simp only [splitChars, if_neg (Ne.symm hc), ih hrest]

namespace Path

/-- The components of a path. -/
def components (path : String) : List (List Char) :=
  (splitChars '/' path.toList).filter fun piece => piece != [] && piece != ['.']

def isAbsolute (path : String) : Bool := path.toList.head? == some '/'

/-- `os.path.join(path, more)`. -/
def join (path more : String) : String :=
  if isAbsolute more then more
  else if path.toList = [] ∨ path.toList.getLast? = some '/' then path ++ more
  else path ++ "/" ++ more

/-- One component of a path: `..` leads back to the directory above. -/
def enter (dir : List (List Char)) (piece : List Char) : List (List Char) :=
  if piece = ['.', '.'] then dir.dropLast else dir ++ [piece]

/-- The file a path names for a process in the directory `cwd`, when no component is a link. -/
def resolve (cwd : List (List Char)) (path : String) : List (List Char) :=
  (components path).foldl enter (if isAbsolute path then [] else cwd)

example : resolve ["app".toList] "pki/../trust//./bundle.yaml" =
    ["app".toList, "trust".toList, "bundle.yaml".toList] := by decide

example : join "pki/" "gateway_raw" = "pki/gateway_raw" := by decide

example : join "pki" "/gateway_raw" = "/gateway_raw" := by decide

theorem components_slash (path more : String) :
    components (path ++ "/" ++ more) = components path ++ components more := by
  have hchars : (path ++ "/" ++ more).toList = path.toList ++ '/' :: more.toList := by simp
  simp only [components, hchars, splitChars_append_cons, List.filter_append]

theorem isAbsolute_append {path : String} (hpath : path ≠ "") (more : String) :
    isAbsolute (path ++ more) = isAbsolute path := by
  have hne : path.toList ≠ [] := by simpa using hpath
  obtain ⟨c, rest, hchars⟩ := List.exists_cons_of_ne_nil hne
  simp only [isAbsolute, String.toList_append, hchars]
  rfl

/-- A relative path is joined component by component. -/
theorem components_join (path : String) {more : String} (hmore : isAbsolute more = false) :
    components (join path more) = components path ++ components more := by
  simp only [join, hmore, Bool.false_eq_true, if_false]
  split
  · rename_i hend
    rcases hend with hempty | hslash
    · have hpath : path = "" := by simpa using hempty
      rw [hpath]
      simp [components, splitChars]
    · -- the slash is there already
      obtain ⟨front, hfront⟩ : ∃ front, path.toList = front ++ ['/'] := by
        obtain ⟨front, hfront⟩ := List.getLast?_eq_some_iff.mp hslash
        exact ⟨front, hfront⟩
      have hpath : path = String.ofList front ++ "/" ++ "" := by
        apply String.toList_injective
        simp [hfront]
      have hjoined : path ++ more = String.ofList front ++ "/" ++ more := by
        apply String.toList_injective
        simp [hfront]
      rw [hjoined, components_slash, hpath, components_slash]
      simp [components, splitChars]
  · exact components_slash path more

theorem isAbsolute_join {path more : String} (hpath : path ≠ "")
    (hmore : isAbsolute more = false) : isAbsolute (join path more) = isAbsolute path := by
  simp only [join, hmore, Bool.false_eq_true, if_false]
  split
  · exact isAbsolute_append hpath more
  · rw [String.append_assoc]
    exact isAbsolute_append hpath _

theorem join_ne_empty {path more : String} (hpath : path ≠ "") (hmore : isAbsolute more = false) :
    join path more ≠ "" := by
  intro hempty
  have hfront : path.toList <+: (join path more).toList := by
    simp only [join, hmore, Bool.false_eq_true, if_false]
    split <;> simp
  rw [hempty] at hfront
  exact hpath (by simpa using hfront)

theorem exists_join_eq (path more : String) : ∃ front, join path more = front ++ more := by
  simp only [join]
  split
  · exact ⟨"", by simp⟩
  · split
    · exact ⟨path, rfl⟩
    · exact ⟨path ++ "/", rfl⟩

/-- `os.path.basename(path)`: what stands behind the last slash. -/
def basename (path : String) : String :=
  String.ofList ((splitChars '/' path.toList).getLastD [])

example : basename "/app/results/telemetry_a.jsonl" = "telemetry_a.jsonl" := by decide

theorem basename_of_chars {path name : String} {front : List Char}
    (hpath : path.toList = front ++ '/' :: name.toList) (hname : '/' ∉ name.toList) :
    basename path = name := by
  rw [basename, hpath, splitChars_append_cons, splitChars_of_not_mem hname, List.getLastD_concat,
    String.ofList_toList]

theorem basename_join (path : String) {name : String} (hname : '/' ∉ name.toList) :
    basename (join path name) = name := by
  have hrelative : isAbsolute name = false := by
    rw [isAbsolute, beq_eq_false_iff_ne]
    exact fun hhead => hname (List.mem_of_mem_head? hhead)
  simp only [join, hrelative, Bool.false_eq_true, if_false]
  split
  · rename_i hend
    rcases hend with hempty | hslash
    · have hpath : path = "" := by simpa using hempty
      rw [hpath, String.empty_append, basename, splitChars_of_not_mem hname]
      exact String.ofList_toList
    · obtain ⟨front, hfront⟩ := List.getLast?_eq_some_iff.mp hslash
      have hchars : (path ++ name).toList = front ++ '/' :: name.toList := by simp [hfront]
      exact basename_of_chars hchars hname
  · have hchars : (path ++ "/" ++ name).toList = path.toList ++ '/' :: name.toList := by simp
    exact basename_of_chars hchars hname

/-- What stands behind the last slash is the name of something, and not a directory by its
    spelling. -/
def Proper (path : String) : Prop := basename path ≠ "" ∧ basename path ≠ "."

theorem exists_basename (path : String) : ∃ pieces piece,
    splitChars '/' path.toList = pieces ++ [piece] ∧ basename path = String.ofList piece := by
  obtain ⟨pieces, piece, hpieces⟩ : ∃ pieces piece,
      splitChars '/' path.toList = pieces ++ [piece] :=
    ⟨_, _, (List.dropLast_concat_getLast (splitChars_ne_nil '/' path.toList)).symm⟩
  refine ⟨pieces, piece, hpieces, ?_⟩
  rw [basename, hpieces, List.getLastD_concat]

/-- The last component of a file is its name. -/
theorem getLast?_resolve (cwd : List (List Char)) {path : String} (hproper : Proper path)
    (hparent : basename path ≠ "..") :
    (resolve cwd path).getLast? = some (basename path).toList := by
  obtain ⟨pieces, piece, hpieces, hname⟩ := exists_basename path
  obtain ⟨hempty, hdot⟩ := hproper
  rw [hname] at hempty hdot hparent
  have hkept : (piece != [] && piece != ['.']) = true := by
    simp only [Bool.and_eq_true, bne_iff_ne]
    refine ⟨?_, ?_⟩
    · rintro rfl
      exact hempty rfl
    · rintro rfl
      exact hdot rfl
  have hback : piece ≠ ['.', '.'] := by
    rintro rfl
    exact hparent rfl
  have hlast : ∃ before, components path = before ++ [piece] := by
    refine ⟨pieces.filter fun piece => piece != [] && piece != ['.'], ?_⟩
    rw [components, hpieces, List.filter_append]
    simp only [List.filter_cons, hkept, if_true, List.filter_nil]
  obtain ⟨before, hbefore⟩ := hlast
  rw [hname, String.toList_ofList, resolve, hbefore, List.foldl_concat, enter, if_neg hback,
    List.getLast?_concat]

theorem suffix_join (path more : String) : more.toList <:+ (join path more).toList := by
  obtain ⟨front, hfront⟩ := exists_join_eq path more
  rw [hfront, String.toList_append]
  exact List.suffix_append front.toList more.toList

/-- The last piece ends as the text does, up to the last separator. -/
theorem splitChars_append_suffix {sep : Char} {suffix : List Char} (h : sep ∉ suffix)
    (text : List Char) :
    ∃ pieces piece, splitChars sep (text ++ suffix) = pieces ++ [piece ++ suffix] := by
  induction text with
  | nil => exact ⟨[], [], by simp [splitChars_of_not_mem h]⟩
  | cons c text ih =>
    obtain ⟨pieces, piece, hpieces⟩ := ih
    by_cases hc : c = sep
    · exact ⟨[] :: pieces, piece, by simp [splitChars, hc, hpieces]⟩
    · cases pieces with
      | nil => exact ⟨[], c :: piece, by simp [splitChars, hc, hpieces]⟩
      | cons first pieces =>
        exact ⟨(c :: first) :: pieces, piece, by simp [splitChars, hc, hpieces]⟩

/-- A path that ends in an extension. -/
theorem proper_of_suffix {path : String} {suffix : List Char} (h : suffix <:+ path.toList)
    (hslash : '/' ∉ suffix) (hlength : 2 ≤ suffix.length) : Proper path := by
  obtain ⟨front, hfront⟩ := h
  obtain ⟨pieces, piece, hpieces⟩ := splitChars_append_suffix hslash front
  have hname : (basename path).toList = piece ++ suffix := by
    rw [basename, ← hfront, hpieces, List.getLastD_concat, String.toList_ofList]
  have htwo : 2 ≤ (basename path).toList.length := by
    rw [hname, List.length_append]
    omega
  refine ⟨?_, ?_⟩
  · intro hempty
    rw [hempty] at htwo
    simp at htwo
  · intro hdot
    rw [hdot] at htwo
    simp at htwo

end Path

/-! ### What paths name -/

/-- The file that each path names for a process, where the links and the directories are what
    they are.  Repeated slashes and single dots within a path make no difference. -/
structure Names (File : Type) where
  locate : String → File
  spelling : ∀ {path path' : String}, Path.isAbsolute path = Path.isAbsolute path' →
    Path.components path = Path.components path' → Path.Proper path → Path.Proper path' →
    locate path = locate path'

/-- A process in the directory `cwd` of a file system without links. -/
def Names.inDirectory (cwd : List (List Char)) : Names (List (List Char)) where
  locate := Path.resolve cwd
  spelling := by
    intro path path' habsolute hcomponents _ _
    simp only [Path.resolve, habsolute, hcomponents]

end QsTie
