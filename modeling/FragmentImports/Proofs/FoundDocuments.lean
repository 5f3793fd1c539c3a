import FragmentImports.Files.Documents
import FragmentImports.Proofs.FileTree
import Mathlib.Data.String.Basic

/-!
The documents that are found below a directory. They are the files with a document's name at any
depth, each once, in the order of their locations: in front of a location stands the same text for
all of them, so the order of the paths is that of the locations.
-/

namespace FragmentImports

structure IsFileName (part : String) : Prop where
  component : Path.IsComponent part
  plain : part ≠ ".."

def IsDocumentName (name : String) : Prop :=
  ∃ stem, name = stem ++ ".graphql" ∨ name = stem ++ ".gql"

theorem hasExtension_iff {name : String} :
    hasExtension documentExtensions name = true ↔ IsDocumentName name := by
  have ends : ∀ extension : String, extension.toList.isSuffixOf name.toList = true ↔
      ∃ stem, name = stem ++ extension := by
    intro extension
    rw [List.isSuffixOf_iff_suffix]
    constructor
    · rintro ⟨front, whole⟩
      refine ⟨String.ofList front, String.toList_inj.1 ?_⟩
      rw [String.toList_append, String.toList_ofList, whole]
    · rintro ⟨stem, rfl⟩
      exact ⟨stem.toList, String.toList_append.symm⟩
  rw [hasExtension, documentExtensions, IsDocumentName, List.any_cons, List.any_cons, List.any_nil,
    Bool.or_false, Bool.or_eq_true, ends, ends, exists_or]

theorem exists_joinPathTexts_eq (text : String) : ∃ front, ∀ location : String,
    location.toList.head? ≠ some '/' → joinPathTexts text location = front ++ location := by
  by_cases empty : text = ""
  · refine ⟨"", fun location _ => ?_⟩
    rw [joinPathTexts, if_pos (Or.inr empty), String.empty_append]
  by_cases closed : text.toList.getLast? = some '/'
  · refine ⟨text, fun location relative => ?_⟩
    rw [joinPathTexts, if_neg (not_or.2 ⟨relative, empty⟩), if_pos closed]
  · refine ⟨text ++ "/", fun location relative => ?_⟩
    rw [joinPathTexts, if_neg (not_or.2 ⟨relative, empty⟩), if_neg closed]

theorem strictMono_append (front : String) : StrictMono fun text : String => front ++ text := by
  intro one other below
  rw [String.lt_iff] at below ⊢
  rw [String.toList_append, String.toList_append]
  exact List.append_left_lt below

def locationOf (below : List String) : String := "/".intercalate below

section Location

variable {below other : List String}

theorem ofString_locationOf (named : ∀ part ∈ below, IsFileName part) (filled : below ≠ []) :
    Path.ofString (locationOf below) = ⟨.relative, below⟩ := by
  have printed : Path.render ⟨.relative, below⟩ = locationOf below := by
    rw [Path.render, if_neg (by simpa using filled)]
    exact String.empty_append
  rw [← printed]
  exact Path.ofString_render fun part member => (named part member).component

theorem head?_locationOf_ne (named : ∀ part ∈ below, IsFileName part) :
    (locationOf below).toList.head? ≠ some '/' := by
  cases below with
  | nil => simp [locationOf]
  | cons first rest =>
      obtain ⟨c, tail, text, other⟩ :=
        (named first List.mem_cons_self).component.exists_toList_cons
      rw [locationOf, String.toList_intercalate, List.map_cons, text, List.intercalate_cons_cons_left]
      simpa using other

end Location

namespace FileTree

variable {tree : FileTree} {text : String} {directory : List String}

/-- Everything in a tree is called by the names of files and directories. -/
def IsProper (tree : FileTree) : Prop :=
  ∀ place ∈ tree.nodes.keys, ∀ part ∈ place, IsFileName part

def HoldsDocument (tree : FileTree) (directory below : List String) (content : ByteArray) : Prop :=
  tree.node? (directory ++ below) = some (.file content) ∧
    ∃ name ∈ below.getLast?, IsDocumentName name

/-- A list of all documents below a directory in the order of their locations. -/
structure ListsDocuments (tree : FileTree) (directory : List String)
    (files : List (List String × ByteArray)) : Prop where
  exactly : ∀ below content,
    (below, content) ∈ files ↔ tree.HoldsDocument directory below content
  placed : ∀ file ∈ files, Path.ofString (locationOf file.1) = ⟨.relative, file.1⟩ ∧ ".." ∉ file.1
  ordered : files.Pairwise fun one other => locationOf one.1 < locationOf other.1

theorem entry_below_iff {place below : List String} {node : FileNode} {content : ByteArray} :
    (match node with
      | .directory => none
      | .file held =>
          if directory.isPrefixOf place then some (place.drop directory.length, held) else none) =
        some (below, content) ↔
      place = directory ++ below ∧ node = .file content := by
  constructor
  · intro found
    cases node with
    | directory => cases found
    | file held =>
        obtain ⟨inside, same⟩ := Option.ite_none_right_eq_some.1 found
        obtain ⟨rest, rfl⟩ := List.isPrefixOf_iff_prefix.1 inside
        cases same
        rw [List.drop_left]
        exact ⟨rfl, rfl⟩
  · rintro ⟨rfl, rfl⟩
    simp

theorem mem_filesBelow_iff {below : List String} {content : ByteArray} :
    (below, content) ∈ tree.filesBelow directory ↔
      tree.nodes.get? (directory ++ below) = some (.file content) := by
  rw [OrderedMap.get?_eq_some_iff, filesBelow, List.mem_filterMap]
  constructor
  · rintro ⟨⟨place, node⟩, listed, found⟩
    obtain ⟨rfl, rfl⟩ := entry_below_iff.1 found
    exact listed
  · intro listed
    exact ⟨_, listed, entry_below_iff.2 ⟨rfl, rfl⟩⟩

theorem pairwise_filesBelow :
    (tree.filesBelow directory).Pairwise fun one other => one.1 ≠ other.1 := by
  refine (List.pairwise_map.1 tree.nodes.nodup).filterMap _ ?_
  rintro ⟨place, node⟩ ⟨place', node'⟩ apart ⟨below, content⟩ first ⟨below', content'⟩ second same
  obtain ⟨rfl, -⟩ := entry_below_iff.1 first
  obtain ⟨rfl, -⟩ := entry_below_iff.1 second
  exact apart (congrArg (directory ++ ·) same)

def documentsBelow (tree : FileTree) (directory : List String) : List (List String × ByteArray) :=
  (tree.filesBelow directory).filter fun file =>
    hasExtension documentExtensions (file.1.getLast?.getD "")

theorem mem_documentsBelow_iff (below : List String) (content : ByteArray) :
    (below, content) ∈ tree.documentsBelow directory ↔
      tree.HoldsDocument directory below content := by
  rw [documentsBelow, List.mem_filter, mem_filesBelow_iff, hasExtension_iff, HoldsDocument]
  cases last : below.getLast? with
  | none =>
      have unnamed : ¬IsDocumentName "" := by
        rintro ⟨stem, same | same⟩
        · simp at same
        · simp at same
      simp [unnamed]
  | some name =>
      have filled : directory ++ below ≠ [] := by
        rintro empty
        rw [(List.append_eq_nil_iff.1 empty).2] at last
        cases last
      rw [node?, if_neg filled]
      simp

def foundWith (text : String) (file : List String × ByteArray) : FoundFile :=
  ⟨joinPathTexts text (locationOf file.1), locationOf file.1, file.2⟩

/-- Whether a document is not found with a path behind that of another one. -/
def notBehind (text : String) (one other : List String × ByteArray) : Bool :=
  !decide ((foundWith text other).path < (foundWith text one).path)

theorem notBehind_iff {one other : List String × ByteArray} : notBehind text one other = true ↔
    (foundWith text one).path ≤ (foundWith text other).path := by
  rw [notBehind, Bool.not_eq_true', decide_eq_false_iff_not, not_lt]

def sortedDocuments (tree : FileTree) (text : String) (directory : List String) :
    List (List String × ByteArray) :=
  (tree.documentsBelow directory).mergeSort (notBehind text)

theorem discoverBelow_eq (tree : FileTree) (text : String) (directory : List String) :
    tree.discoverBelow documentExtensions text directory =
      (tree.sortedDocuments text directory).map (foundWith text) := by
  have sorted : (tree.sortedDocuments text directory).map (foundWith text) =
      sortedByPath ((tree.documentsBelow directory).map (foundWith text)) :=
    List.map_mergeSort fun _ _ _ _ => rfl
  exact sorted.symm

theorem HoldsDocument.filled {below : List String} {content : ByteArray}
    (held : tree.HoldsDocument directory below content) : below ≠ [] := by
  obtain ⟨-, name, last, -⟩ := held
  rintro rfl
  cases last

theorem HoldsDocument.named {below : List String} {content : ByteArray} (proper : tree.IsProper)
    (held : tree.HoldsDocument directory below content) : ∀ part ∈ below, IsFileName part := by
  have filled : directory ++ below ≠ [] := by simp [held.filled]
  have known := held.1
  rw [node?, if_neg filled] at known
  intro part member
  exact proper _ (OrderedMap.mem_keys_of_get? known) part (List.mem_append_right _ member)

theorem pairwise_sortedDocuments (tree : FileTree) (text : String) (directory : List String) :
    (tree.sortedDocuments text directory).Pairwise fun one other =>
      (foundWith text one).path ≤ (foundWith text other).path := by
  have sorted := @List.pairwise_mergeSort _ (notBehind text) ?_ ?_ (tree.documentsBelow directory)
  · exact sorted.imp fun {one other} first => notBehind_iff.1 first
  · intro one other last
    simp only [notBehind_iff]
    exact le_trans
  · intro one other
    simp only [Bool.or_eq_true, notBehind_iff]
    exact le_total _ _

theorem apart_sortedDocuments (tree : FileTree) (text : String) (directory : List String) :
    (tree.sortedDocuments text directory).Pairwise fun one other => one.1 ≠ other.1 := by
  refine (List.mergeSort_perm _ _).symm.pairwise ?_ Ne.symm
  exact pairwise_filesBelow.filter _

theorem listsDocuments_sorted (proper : tree.IsProper) (text : String) (directory : List String) :
    tree.ListsDocuments directory (tree.sortedDocuments text directory) := by
  have exactly : ∀ below content, (below, content) ∈ tree.sortedDocuments text directory ↔
      tree.HoldsDocument directory below content := by
    intro below content
    rw [sortedDocuments, List.mem_mergeSort, mem_documentsBelow_iff]
  have placed : ∀ file ∈ tree.sortedDocuments text directory,
      Path.ofString (locationOf file.1) = ⟨.relative, file.1⟩ ∧ ".." ∉ file.1 ∧
        (locationOf file.1).toList.head? ≠ some '/' := by
    rintro ⟨below, content⟩ member
    have held := (exactly below content).1 member
    have named := held.named proper
    exact ⟨ofString_locationOf named held.filled, fun climbs => (named _ climbs).plain rfl,
      head?_locationOf_ne named⟩
  refine ⟨exactly, fun file member => ⟨(placed file member).1, (placed file member).2.1⟩, ?_⟩
  obtain ⟨front, paths⟩ := exists_joinPathTexts_eq text
  refine ((tree.pairwise_sortedDocuments text directory).and
    (tree.apart_sortedDocuments text directory)).imp_of_mem ?_
  rintro one other first second ⟨before, differ⟩
  rw [foundWith, foundWith, paths _ (placed one first).2.2, paths _ (placed other second).2.2,
    (strictMono_append front).le_iff_le] at before
  refine lt_of_le_of_ne before fun same => differ ?_
  have parts := (placed one first).1.symm.trans ((congrArg _ same).trans (placed other second).1)
  exact congrArg Path.parts parts

def ReadsAs (content : ByteArray) (result : Except Document.SyntaxError Document) : Prop :=
  ∃ text, decode content = .ok text ∧ Document.parse text = result

theorem exists_readsAs {content : ByteArray} (readable : content.IsValidUTF8) :
    ∃ result, ReadsAs content result := by
  have read : String.fromUTF8? content = some (String.fromUTF8 content readable) :=
    dif_pos readable
  have decoded : ∃ text, decode content = .ok text := by
    rw [decode, decodeText, read, Option.map_some]
    exact ⟨_, rfl⟩
  obtain ⟨text, ok⟩ := decoded
  exact ⟨Document.parse text, text, ok, rfl⟩

theorem loadDocument_of_readsAs {file : FoundFile}
    {result : Except Document.SyntaxError Document} (reads : ReadsAs file.content result) :
    loadDocument file =
      (result.mapError (.notParsed file.path)).map fun document => ⟨file.location, document⟩ := by
  obtain ⟨text, decoded, rfl⟩ := reads
  have opened : loadDocument file = (Document.parse text).mapError (.notParsed file.path) >>=
      fun document => pure ⟨file.location, document⟩ := by
    rw [loadDocument, decoded]
    rfl
  rw [opened]
  cases Document.parse text <;> rfl

theorem of_loadDocument_eq_ok {file : FoundFile} {source : SourceDocument}
    (readable : file.content.IsValidUTF8) (loaded : loadDocument file = .ok source) :
    source.location = file.location ∧ ReadsAs file.content (.ok source.document) := by
  obtain ⟨result, reads⟩ := exists_readsAs readable
  rw [loadDocument_of_readsAs reads] at loaded
  cases result with
  | error error => cases loaded
  | ok document =>
      cases loaded
      exact ⟨rfl, reads⟩

theorem of_loadDocument_eq_error {file : FoundFile} {fault : DocumentFault}
    (readable : file.content.IsValidUTF8) (failed : loadDocument file = .error fault) :
    ∃ error, fault = .notParsed file.path error ∧ ReadsAs file.content (.error error) := by
  obtain ⟨result, reads⟩ := exists_readsAs readable
  rw [loadDocument_of_readsAs reads] at failed
  cases result with
  | error error =>
      cases failed
      exact ⟨error, rfl, reads⟩
  | ok document => cases failed

theorem loadDocuments_eq_mapM (found : tree.find text = .ok (directory, .directory)) :
    tree.loadDocuments text = (tree.sortedDocuments text directory).mapM fun file =>
      loadDocument (foundWith text file) := by
  rw [loadDocuments, discover, found]
  change (tree.discoverBelow documentExtensions text directory).mapM loadDocument = _
  rw [discoverBelow_eq, List.mapM_map]
  rfl

/-- Where a path text leads to a directory, either every document below it is loaded, one for each
file and in the order of the locations, or the first one that cannot be parsed ends the run with its
error. -/
theorem loadDocuments_of_directory (proper : tree.IsProper)
    (found : tree.find text = .ok (directory, .directory))
    (readable : ∀ below content, tree.HoldsDocument directory below content →
      content.IsValidUTF8) :
    ∃ files, tree.ListsDocuments directory files ∧
      ((∃ sources, tree.loadDocuments text = .ok sources ∧
          List.Forall₂ (fun file source => source.location = locationOf file.1 ∧
            ReadsAs file.2 (.ok source.document)) files sources) ∨
        ∃ before file after error, files = before ++ file :: after ∧
          (∀ earlier ∈ before, ∃ document, ReadsAs earlier.2 (.ok document)) ∧
          ReadsAs file.2 (.error error) ∧
          tree.loadDocuments text =
            .error (.notParsed (joinPathTexts text (locationOf file.1)) error)) := by
  have listed := listsDocuments_sorted proper text directory
  refine ⟨tree.sortedDocuments text directory, listed, ?_⟩
  have valid : ∀ file ∈ tree.sortedDocuments text directory, file.2.IsValidUTF8 :=
    fun file member => readable file.1 file.2 ((listed.exactly file.1 file.2).1 member)
  rw [loadDocuments_eq_mapM found]
  rcases mapM_ok_or_first_error (fun file => loadDocument (foundWith text file))
      (tree.sortedDocuments text directory) with
    ⟨sources, run, each⟩ | ⟨before, file, after, fault, parts, fine, bad, run⟩
  · refine Or.inl ⟨sources, run, ((List.forall₂_and_left _ _).2 ⟨valid, each⟩).imp ?_⟩
    rintro file source ⟨plain, made⟩
    exact of_loadDocument_eq_ok plain made
  · rw [parts] at valid
    obtain ⟨error, rfl, reads⟩ := of_loadDocument_eq_error (valid file (by simp)) bad
    refine Or.inr ⟨before, file, after, error, parts, ?_, reads, run⟩
    intro earlier member
    obtain ⟨source, made⟩ := fine earlier member
    exact ⟨_, (of_loadDocument_eq_ok (valid earlier (by simp [member])) made).2⟩

/-- A directory and a file whose names begin alike, and a file of another kind. -/
def dashedTree : FileTree where
  nodes := ⟨[(["work"], .directory), (["work", "docs"], .directory),
    (["work", "docs", "a"], .directory),
    (["work", "docs", "a", "b.gql"], .file "\x7b id \x7d".toUTF8),
    (["work", "docs", "a-b.graphql"], .file "\x7b id".toUTF8),
    (["work", "docs", "a.graphqls"], .file "type".toUTF8)], by decide⟩
  cwd := ["work"]

theorem loadDocuments_of_directory_dashed :
    dashedTree.find "./docs/" = .ok (["work", "docs"], .directory) ∧ ∃ files,
      dashedTree.ListsDocuments ["work", "docs"] files ∧
        (["a-b.graphql"], "\x7b id".toUTF8) ∈ files ∧
        (["a", "b.gql"], "\x7b id \x7d".toUTF8) ∈ files ∧
        (["a.graphqls"], "type".toUTF8) ∉ files ∧
        ((∃ sources, dashedTree.loadDocuments "./docs/" = .ok sources ∧
            sources.length = files.length) ∨
          ∃ path error, dashedTree.loadDocuments "./docs/" = .error (.notParsed path error)) := by
  have found : dashedTree.find "./docs/" = .ok (["work", "docs"], .directory) := by decide +kernel
  have proper : dashedTree.IsProper := by
    have names : ∀ place ∈ dashedTree.nodes.keys, ∀ part ∈ place,
        Path.IsComponent part ∧ part ≠ ".." := by decide
    exact fun place member part inside =>
      ⟨(names place member part inside).1, (names place member part inside).2⟩
  have texts : ∀ entry ∈ dashedTree.nodes.entries, entry.2 = .directory ∨
      ∃ text : String, entry.2 = .file text.toUTF8 := by
    simp only [dashedTree, List.forall_mem_cons]
    exact ⟨.inl trivial, .inl trivial, .inl trivial, .inr ⟨_, rfl⟩, .inr ⟨_, rfl⟩, .inr ⟨_, rfl⟩,
      List.forall_mem_nil _⟩
  obtain ⟨files, listed, outcome⟩ := loadDocuments_of_directory proper found (by
    intro below content held
    have known := held.1
    rw [node?, if_neg (by simp)] at known
    rcases texts _ ((OrderedMap.get?_eq_some_iff _ _ _).1 known) with other | ⟨text, same⟩
    · cases other
    · cases same
      exact String.isValidUTF8 _)
  refine ⟨found, files, listed, ?_, ?_, ?_, ?_⟩
  · rw [listed.exactly]
    exact ⟨by decide +kernel, "a-b.graphql", rfl, "a-b", .inl rfl⟩
  · rw [listed.exactly]
    exact ⟨by decide +kernel, "b.gql", rfl, "b", .inr rfl⟩
  · rw [listed.exactly]
    rintro ⟨-, name, ⟨⟩, other⟩
    exact absurd (hasExtension_iff.2 other) (by decide)
  · rcases outcome with ⟨sources, loaded, each⟩ | ⟨_, _, _, error, -, -, -, failed⟩
    · exact .inl ⟨sources, loaded, each.length_eq.symm⟩
    · exact .inr ⟨_, error, failed⟩

end FileTree

end FragmentImports
