import MagicShare.Base.Percent
import MagicShare.Pairing.LanClient
import MagicShare.Pairing.UriForm

/-! Android document URIs (`content_uri_helper.dart`).

A folder that was picked is known by its tree URI, `…/tree/` and the percent-coded path;
a document in it by the tree URI, `/document/` and the coded path of the document. What is
taken for the relative path of a document is the path it was made of, in the folder's name
(`document_path_round_trip`): both texts that are deleted stand in front, so their first
occurrences are the right ones whatever the names contain. Percent coding gives back every
path but those with a byte order mark in front (`coded_iff`). -/
namespace MagicShare.Native
open Fallible (bind_eq_ok)
open Pairing (codeUnits lengthOf dropUnits)
open Pairing.LanClient (utf8Encode utf8Decode withoutMark utf8Decode_utf8Encode exists_of_utf8Decode)

/-! ### Dart's strings -/

inductive UriFailure where
  /-- `ArgumentError`: no percent coding. -/
  | argument
  /-- `FormatException`: no UTF-8. -/
  | format
  | range
  deriving DecidableEq

/-- The position of the first occurrence, in code units; `none` for minus one. -/
def indexOf (pattern : List Char) : List Char → Option Nat
  | [] => if pattern = [] then some 0 else none
  | c :: s => if pattern.isPrefixOf (c :: s) then some 0 else (indexOf pattern s).map (codeUnits c + ·)

/-- `substring` from there to the end. -/
def substringFrom (s : List Char) (start : Nat) : Except UriFailure (List Char) :=
  if start > lengthOf s then .error .range else .ok (dropUnits start s)

/-- The first `n` code units. Of a surrogate pair that is cut in two the first half is
left, which is no character. -/
def takeUnits : Nat → List Char → List Char
  | 0, _ => []
  | _, [] => []
  | n + 1, c :: s =>
    if codeUnits c = 1 then c :: takeUnits n s
    else if n = 0 then ['\uFFFD']
    else c :: takeUnits (n - 1) s

/-- `substring` up to there. -/
def substringTo (s : List Char) (stop : Nat) : Except UriFailure (List Char) :=
  if stop > lengthOf s then .error .range else .ok (takeUnits stop s)

def replaceFirst (pattern replacement : List Char) : List Char → List Char
  | [] => if pattern = [] then replacement else []
  | c :: s =>
    if pattern.isPrefixOf (c :: s) then replacement ++ (c :: s).drop pattern.length
    else c :: replaceFirst pattern replacement s

/-! ### Percent coding of a component -/

/-- The characters that `encodeComponent` leaves as they are. -/
def unreserved : Percent.Unreserved where
  keeps c := c.toNat ≤ 127 && (c.isAlphanum || c ∈ "-_.!~*'()".toList)
  ascii c h := by simp at h; exact h.1
  percent := by decide

def encodeComponent (component : String) : String := String.ofList (Percent.encode unreserved (utf8Encode component))

def decodeComponent (encodedComponent : String) : Except UriFailure String :=
  match Percent.decode encodedComponent.toList with
  | none => .error .argument
  | some bytes =>
    match utf8Decode bytes with
    | none => .error .format
    | some component => .ok component

/-! ### The helper -/

/-- `/tree/` -/
def treeSegment : List Char := ['/', 't', 'r', 'e', 'e', '/']

/-- `/document/` -/
def documentSegment : List Char := ['/', 'd', 'o', 'c', 'u', 'm', 'e', 'n', 't', '/']

theorem toList_tree : "/tree/".toList = treeSegment := String.toList_ofList

theorem toList_document : "/document/".toList = documentSegment := String.toList_ofList

def getPathFromTreeUri (uri : String) : Except UriFailure (Option String) :=
  match indexOf treeSegment uri.toList with
  | none => .ok none
  | some index => do
    let path ← substringFrom uri.toList (index + 6)
    let decoded ← decodeComponent (String.ofList path)
    return some decoded

def guessRelativePathFromPickedFileContentUri (folderContentUri basePath folderName uri : String) :
    Except UriFailure String := do
  let withoutFolder := replaceFirst folderContentUri.toList [] uri.toList
  let fileUri ← if documentSegment.isPrefixOf withoutFolder then substringFrom withoutFolder 10 else pure withoutFolder
  let decoded ← decodeComponent (String.ofList fileUri)
  let withoutBasePath := replaceFirst basePath.toList [] decoded.toList
  if ['/'].isPrefixOf withoutBasePath then
    return folderName ++ String.ofList withoutBasePath
  else
    return folderName ++ "/" ++ String.ofList withoutBasePath

/-- Without a `/tree/` the path is what follows five code units. -/
def convertTreeUriToDocumentUri (treeUri : String) (suffix : Option String) : Except UriFailure String := do
  let treePath ← substringFrom treeUri.toList ((indexOf treeSegment treeUri.toList).elim 5 (· + 6))
  match suffix with
  | none => return treeUri ++ "/document/" ++ String.ofList treePath
  | some suffix => return treeUri ++ "/document/" ++ String.ofList treePath ++ "%2F" ++ encodeComponent suffix

def encodeTreeUri (uri : String) : Except UriFailure String :=
  match indexOf treeSegment uri.toList with
  | none => .ok uri
  | some treeIndex => do
    let path ← substringFrom uri.toList (treeIndex + 6)
    let decoded ← decodeComponent (String.ofList path)
    let start ← substringTo uri.toList (treeIndex + 6)
    return String.ofList start ++ encodeComponent decoded

/-! ### Positions -/

theorem isPrefixOf_append (s t : List Char) : s.isPrefixOf (s ++ t) = true := by
  rw [List.isPrefixOf_iff_prefix]
  exact List.prefix_append s t

/-- Before the first occurrence there is none. -/
theorem indexOf_append {pattern before : List Char} (rest : List Char)
    (h : ∀ s t, before = s ++ t → t ≠ [] → ¬ pattern <+: t ++ (pattern ++ rest)) :
    indexOf pattern (before ++ (pattern ++ rest)) = some (lengthOf before) := by
  induction before with
  | nil =>
    rw [List.nil_append]
    cases hs : pattern ++ rest with
    | nil => simp [indexOf, (List.append_eq_nil_iff.mp hs).1, lengthOf]
    | cons c s =>
      rw [indexOf, if_pos (hs ▸ isPrefixOf_append pattern rest)]
      rfl
  | cons c before ih =>
    have hhere : ¬ pattern <+: c :: (before ++ (pattern ++ rest)) := h [] (c :: before) rfl (List.cons_ne_nil _ _)
    rw [List.cons_append, indexOf, if_neg (by rwa [List.isPrefixOf_iff_prefix]), ih, Option.map_some]
    · simp [lengthOf]
    · intro s t heq ht
      exact h (c :: s) t (by rw [heq, List.cons_append]) ht

theorem codeUnits_cases (c : Char) : codeUnits c = 1 ∨ codeUnits c = 2 := by
  rw [codeUnits]
  split
  · exact .inl rfl
  · exact .inr rfl

theorem lengthOf_append (s t : List Char) : lengthOf (s ++ t) = lengthOf s + lengthOf t := by
  rw [lengthOf, List.map_append, List.sum_append, ← lengthOf, ← lengthOf]

theorem dropUnits_append (s t : List Char) : dropUnits (lengthOf s) (s ++ t) = t := by
  induction s with
  | nil => simp [lengthOf, dropUnits]
  | cons c s ih =>
    have hlength : lengthOf (c :: s) = codeUnits c + lengthOf s := by simp [lengthOf]
    rw [hlength, List.cons_append]
    rcases codeUnits_cases c with hunits | hunits
    · rw [hunits, Nat.add_comm, dropUnits, if_pos hunits, ih]
    · rw [hunits, Nat.add_comm, dropUnits, if_neg (by omega), if_neg (by omega)]
      exact ih

theorem takeUnits_append (s t : List Char) : takeUnits (lengthOf s) (s ++ t) = s := by
  induction s with
  | nil => simp [lengthOf, takeUnits]
  | cons c s ih =>
    have hlength : lengthOf (c :: s) = codeUnits c + lengthOf s := by simp [lengthOf]
    rw [hlength, List.cons_append]
    rcases codeUnits_cases c with hunits | hunits
    · rw [hunits, Nat.add_comm, takeUnits, if_pos hunits, ih]
    · rw [hunits, Nat.add_comm, takeUnits, if_neg (by omega), if_neg (by omega)]
      exact congrArg _ ih

theorem substringFrom_append (s t : List Char) : substringFrom (s ++ t) (lengthOf s) = .ok t := by
  rw [substringFrom, if_neg (by rw [lengthOf_append]; omega), dropUnits_append]

theorem substringTo_append (s t : List Char) : substringTo (s ++ t) (lengthOf s) = .ok s := by
  rw [substringTo, if_neg (by rw [lengthOf_append]; omega), takeUnits_append]

/-- A prefix is the first occurrence. -/
theorem replaceFirst_append (pattern rest : List Char) : replaceFirst pattern [] (pattern ++ rest) = rest := by
  cases hs : pattern ++ rest with
  | nil =>
    obtain ⟨rfl, rfl⟩ := List.append_eq_nil_iff.mp hs
    rfl
  | cons c s =>
    rw [replaceFirst, if_pos (hs ▸ isPrefixOf_append pattern rest), ← hs, List.nil_append, List.drop_left]

/-! ### The first `/tree/` -/

/-- What stands before the first `/tree/` of a URI. -/
structure Leads (before : List Char) : Prop where
  none : ¬ treeSegment <:+: before
  overlap : ¬ "/tree".toList <:+ before

/-- A `/tree/` can only begin in the text before by ending in the one that follows. -/
theorem eq_of_overlap {t rest : List Char} (hne : t ≠ []) (hlength : t.length < 6)
    (h : treeSegment <+: t ++ (treeSegment ++ rest)) : t = "/tree".toList := by
  have ht : t <+: treeSegment := List.prefix_of_prefix_length_le (List.prefix_append ..) h (Nat.le_of_lt hlength)
  have htake : t = treeSegment.take t.length := List.prefix_iff_eq_take.mp ht
  have hpos : 0 < t.length := List.length_pos_iff.mpr hne
  generalize t.length = n at htake hlength hpos
  subst htake
  obtain rfl | rfl | rfl | rfl | rfl : n = 1 ∨ n = 2 ∨ n = 3 ∨ n = 4 ∨ n = 5 := by omega
  · simp [treeSegment] at h
  · simp [treeSegment] at h
  · simp [treeSegment] at h
  · simp [treeSegment] at h
  · exact String.toList_ofList.symm

theorem Leads.indexOf {before : List Char} (h : Leads before) (path : List Char) :
    indexOf treeSegment (before ++ (treeSegment ++ path)) = some (lengthOf before) := by
  refine indexOf_append path fun s t heq hne hprefix => ?_
  by_cases hlength : t.length < 6
  · obtain rfl := eq_of_overlap hne hlength hprefix
    exact h.overlap ⟨s, heq.symm⟩
  · have ht : treeSegment <+: t := List.prefix_of_prefix_length_le hprefix (List.prefix_append ..) (Nat.not_lt.mp hlength)
    obtain ⟨u, rfl⟩ := ht
    exact h.none ⟨s, u, by rw [heq, List.append_assoc]⟩

/-- A prefix without `/tree/` leads, or it ends with `/tree` and what comes before that leads. -/
theorem leads_of_notInfix {before : List Char} (h : ¬ treeSegment <:+: before) :
    Leads before ∨ ∃ start, before = start ++ "/tree".toList ∧ Leads start := by
  by_cases hsuffix : "/tree".toList <:+ before
  · obtain ⟨start, rfl⟩ := hsuffix
    refine .inr ⟨start, rfl, fun hwithin => h (hwithin.trans (List.prefix_append ..).isInfix), fun hagain => h ?_⟩
    obtain ⟨first, rfl⟩ := hagain
    have htree : "/tree".toList = ['/', 't', 'r', 'e', 'e'] := String.toList_ofList
    exact ⟨first, ['t', 'r', 'e', 'e'], by simp [treeSegment, htree]⟩
  · exact .inl ⟨h, hsuffix⟩

/-! ### Coding -/

theorem utf8Encode_append (s t : String) : utf8Encode (s ++ t) = utf8Encode s ++ utf8Encode t := by
  simp [utf8Encode]

theorem decodeComponent_eq_ok {s b : String} :
    decodeComponent s = .ok b ↔ ∃ text, Percent.decode s.toList = some (utf8Encode text) ∧ b = withoutMark text := by
  rw [decodeComponent]
  constructor
  · intro h
    split at h
    · cases h
    · next bytes hbytes =>
      split at h
      · cases h
      · next component hcomponent =>
        obtain rfl := Except.ok.inj h
        obtain ⟨text, rfl, rfl⟩ := exists_of_utf8Decode hcomponent
        exact ⟨text, hbytes, rfl⟩
  · rintro ⟨text, hbytes, rfl⟩
    simp only [hbytes, utf8Decode_utf8Encode]

theorem decodeComponent_encode (s : String) : decodeComponent (encodeComponent s) = .ok (withoutMark s) := by
  refine decodeComponent_eq_ok.mpr ⟨s, ?_, rfl⟩
  rw [encodeComponent, String.toList_ofList, Percent.decode_encode]

/-- Percent coding gives the text back. -/
def Coded (s : String) : Prop := decodeComponent (encodeComponent s) = .ok s

/-- It does for every text but those with a byte order mark in front. -/
theorem coded_iff {s : String} : Coded s ↔ s.toList.head? ≠ some '\uFEFF' := by
  rw [Coded, decodeComponent_encode, Except.ok.injEq, withoutMark]
  constructor
  · intro h hmark
    rw [if_pos hmark] at h
    have hlength := congrArg (fun s => s.toList.length) h
    simp only [String.toList_ofList, List.length_tail] at hlength
    have hne : s.toList ≠ [] := fun hnil => by
      rw [hnil] at hmark
      cases hmark
    have hpos := List.length_pos_iff.mpr hne
    omega
  · intro h
    rw [if_neg h]

theorem withoutMark_append {s t : String} (h : t.toList.head? ≠ some '\uFEFF') :
    withoutMark (s ++ t) = withoutMark s ++ t := by
  cases hs : s.toList with
  | nil =>
    have hempty : s = "" := String.toList_eq_nil_iff.mp hs
    subst hempty
    rw [String.empty_append, withoutMark, if_neg h]
    rfl
  | cons c rest =>
    rw [withoutMark, withoutMark, String.toList_append, hs, List.cons_append, List.head?_cons, List.head?_cons]
    split
    · rw [List.tail_cons, List.tail_cons, String.ofList_append, String.ofList_toList]
    · rfl

theorem decode_slash (s : String) :
    Percent.decode ("%2F" ++ encodeComponent s).toList = some (utf8Encode ("/" ++ s)) := by
  have hslash : Query.hexByte '2' 'F' = some 0x2F := by decide
  have hlist : ("%2F" ++ encodeComponent s).toList = '%' :: '2' :: 'F' :: Percent.encode unreserved (utf8Encode s) := by
    simp [encodeComponent]
  rw [hlist, Percent.decode_escape hslash, Percent.decode_encode, utf8Encode_append]
  rfl

/-- What follows a path is decoded by itself. -/
theorem decodeComponent_append {path base rest text : String} (h : decodeComponent path = .ok base)
    (hrest : Percent.decode rest.toList = some (utf8Encode text)) (hmark : text.toList.head? ≠ some '\uFEFF') :
    decodeComponent (path ++ rest) = .ok (base ++ text) := by
  obtain ⟨marked, hbytes, rfl⟩ := decodeComponent_eq_ok.mp h
  refine decodeComponent_eq_ok.mpr ⟨marked ++ text, ?_, (withoutMark_append hmark).symm⟩
  rw [String.toList_append, Percent.decode_append hbytes, hrest, Option.map_some, ← utf8Encode_append]

/-- More text in front can be decoded as well. -/
theorem decodeComponent_tree {path base : String} (h : decodeComponent path = .ok base) :
    ∃ base, decodeComponent ("tree/" ++ path) = .ok base := by
  obtain ⟨text, hbytes, -⟩ := decodeComponent_eq_ok.mp h
  have htree : Percent.decode "tree/".toList = some (utf8Encode "tree/") := by
    rw [show "tree/".toList = ['t', 'r', 'e', 'e', '/'] from String.toList_ofList]
    rfl
  refine ⟨withoutMark ("tree/" ++ text), decodeComponent_eq_ok.mpr ⟨"tree/" ++ text, ?_, rfl⟩⟩
  rw [String.toList_append, Percent.decode_append htree, hbytes, Option.map_some, ← utf8Encode_append]

/-! ### What the functions answer -/

section
variable {uri base : String} {before path : List Char}

theorem substringFrom_tree (huri : uri.toList = before ++ (treeSegment ++ path)) :
    substringFrom uri.toList (lengthOf before + 6) = .ok path := by
  have hlength : lengthOf before + 6 = lengthOf (before ++ treeSegment) := by rw [lengthOf_append]; rfl
  rw [huri, hlength, ← List.append_assoc, substringFrom_append]

theorem substringTo_tree (huri : uri.toList = before ++ (treeSegment ++ path)) :
    substringTo uri.toList (lengthOf before + 6) = .ok (before ++ treeSegment) := by
  have hlength : lengthOf before + 6 = lengthOf (before ++ treeSegment) := by rw [lengthOf_append]; rfl
  rw [huri, hlength, ← List.append_assoc, substringTo_append]

theorem getPathFromTreeUri_of (huri : uri.toList = before ++ (treeSegment ++ path)) (hleads : Leads before)
    (hbase : decodeComponent (String.ofList path) = .ok base) : getPathFromTreeUri uri = .ok (some base) := by
  rw [getPathFromTreeUri, huri, hleads.indexOf]
  simp only
  rw [← huri]
  exact bind_eq_ok.mpr ⟨path, substringFrom_tree huri, bind_eq_ok.mpr ⟨base, hbase, rfl⟩⟩

theorem convertTreeUriToDocumentUri_of (huri : uri.toList = before ++ (treeSegment ++ path)) (hleads : Leads before)
    (suffix : String) : convertTreeUriToDocumentUri uri (some suffix) =
      .ok (uri ++ ("/document/" ++ (String.ofList path ++ "%2F" ++ encodeComponent suffix))) := by
  have hindex : (indexOf treeSegment uri.toList).elim 5 (· + 6) = lengthOf before + 6 := by
    rw [huri, hleads.indexOf]
    rfl
  rw [convertTreeUriToDocumentUri, hindex]
  refine bind_eq_ok.mpr ⟨path, substringFrom_tree huri, ?_⟩
  simp only [String.append_assoc]
  rfl

theorem encodeTreeUri_of (huri : uri.toList = before ++ (treeSegment ++ path)) (hleads : Leads before)
    (hbase : decodeComponent (String.ofList path) = .ok base) :
    encodeTreeUri uri = .ok (String.ofList (before ++ treeSegment) ++ encodeComponent base) := by
  rw [encodeTreeUri, huri, hleads.indexOf]
  simp only
  rw [← huri]
  refine bind_eq_ok.mpr ⟨path, substringFrom_tree huri, bind_eq_ok.mpr ⟨base, hbase, ?_⟩⟩
  exact bind_eq_ok.mpr ⟨_, substringTo_tree huri, rfl⟩

end

/-- The tree URI and the base path stand in front of the URI of a document. -/
theorem guessRelativePath_of {path base rest text : String} (hbase : decodeComponent path = .ok base)
    (hrest : Percent.decode rest.toList = some (utf8Encode text)) (hmark : text.toList.head? ≠ some '\uFEFF')
    (treeUri folderName : String) :
    guessRelativePathFromPickedFileContentUri treeUri base folderName (treeUri ++ ("/document/" ++ (path ++ rest))) =
      .ok (if ['/'].isPrefixOf text.toList then folderName ++ text else folderName ++ "/" ++ text) := by
  rw [guessRelativePathFromPickedFileContentUri, String.toList_append, replaceFirst_append, String.toList_append,
    toList_document]
  refine bind_eq_ok.mpr ⟨(path ++ rest).toList, substringFrom_append documentSegment _, ?_⟩
  simp only [String.ofList_toList]
  refine bind_eq_ok.mpr ⟨_, decodeComponent_append hbase hrest hmark, ?_⟩
  rw [String.toList_append, replaceFirst_append, String.ofList_toList]
  split
  · rfl
  · rfl

/-- A document that is found below the folder. -/
theorem guessRelativePath_slash {path base : String} (hbase : decodeComponent path = .ok base)
    (treeUri folderName r : String) :
    guessRelativePathFromPickedFileContentUri treeUri base folderName
      (treeUri ++ ("/document/" ++ (path ++ "%2F" ++ encodeComponent r))) = .ok (folderName ++ "/" ++ r) := by
  have hslash : ['/'].isPrefixOf ("/" ++ r).toList = true := by
    rw [String.toList_append]
    exact isPrefixOf_append ['/'] _
  have hrest : path ++ "%2F" ++ encodeComponent r = path ++ ("%2F" ++ encodeComponent r) := String.append_assoc
  rw [hrest, guessRelativePath_of hbase (decode_slash r) (by simp) treeUri folderName, if_pos hslash,
    String.append_assoc]

/-- The root of a volume ends with a colon, and no `/` comes between it and a document. -/
theorem guessRelativePath_root {path base r : String} (hbase : decodeComponent path = .ok base) (hcoded : Coded r)
    (hr : ¬ ['/'].isPrefixOf r.toList) (treeUri folderName : String) :
    guessRelativePathFromPickedFileContentUri treeUri base folderName
      (treeUri ++ ("/document/" ++ (path ++ encodeComponent r))) = .ok (folderName ++ "/" ++ r) := by
  have hbytes : Percent.decode (encodeComponent r).toList = some (utf8Encode r) := by
    rw [encodeComponent, String.toList_ofList, Percent.decode_encode]
  rw [guessRelativePath_of hbase hbytes (coded_iff.mp hcoded) treeUri folderName, if_neg hr]

/-- The first `/tree/` of a URI, where what follows the one that is meant can be decoded. -/
theorem exists_leads {before path b : String} (hbefore : ¬ treeSegment <:+: before.toList)
    (hpath : decodeComponent path = .ok b) : ∃ leading rest base,
      (before ++ "/tree/" ++ path).toList = leading ++ (treeSegment ++ rest) ∧ Leads leading ∧
        decodeComponent (String.ofList rest) = .ok base ∧ (¬ "/tree".toList <:+ before.toList → base = b) := by
  rcases leads_of_notInfix hbefore with hleads | ⟨start, hstart, hleads⟩
  · refine ⟨before.toList, path.toList, b, ?_, hleads, ?_, fun _ => rfl⟩
    · rw [String.toList_append, String.toList_append, toList_tree, List.append_assoc]
    · rw [String.ofList_toList, hpath]
  · obtain ⟨base, hbase⟩ := decodeComponent_tree hpath
    refine ⟨start, "tree/".toList ++ path.toList, base, ?_, hleads, ?_, fun hsuffix => ?_⟩
    · have htree : "/tree".toList ++ treeSegment = treeSegment ++ "tree/".toList := by decide +kernel
      rw [String.toList_append, String.toList_append, toList_tree, hstart, List.append_assoc, List.append_assoc,
        ← List.append_assoc _ _ path.toList, htree, List.append_assoc]
    · rw [String.ofList_append, String.ofList_toList, String.ofList_toList, hbase]
    · exact absurd ⟨start, hstart.symm⟩ hsuffix

/-- What is asked of the functions on a tree URI, with the path of its folder. -/
structure RoundTrips (treeUri basePath : String) : Prop where
  path : getPathFromTreeUri treeUri = .ok (some basePath)
  document : ∀ folderName r, (convertTreeUriToDocumentUri treeUri (some r)).bind
    (guessRelativePathFromPickedFileContentUri treeUri basePath folderName) = .ok (folderName ++ "/" ++ r)
  encoded : Coded basePath → ∃ encoded, encodeTreeUri treeUri = .ok encoded ∧ encodeTreeUri encoded = .ok encoded ∧
    getPathFromTreeUri encoded = .ok (some basePath)

theorem roundTrips_of {uri basePath : String} {leading path : List Char}
    (huri : uri.toList = leading ++ (treeSegment ++ path)) (hleads : Leads leading)
    (hbase : decodeComponent (String.ofList path) = .ok basePath) : RoundTrips uri basePath where
  path := getPathFromTreeUri_of huri hleads hbase
  document folderName r := by
    rw [convertTreeUriToDocumentUri_of huri hleads]
    exact guessRelativePath_slash hbase uri folderName r
  encoded hcoded := by
    have hencoded : (String.ofList (leading ++ treeSegment) ++ encodeComponent basePath).toList =
        leading ++ (treeSegment ++ (encodeComponent basePath).toList) := by
      rw [String.toList_append, String.toList_ofList, List.append_assoc]
    have hagain : decodeComponent (String.ofList (encodeComponent basePath).toList) = .ok basePath := by
      rw [String.ofList_toList]
      exact hcoded
    exact ⟨_, encodeTreeUri_of huri hleads hbase, encodeTreeUri_of hencoded hleads hagain,
      getPathFromTreeUri_of hencoded hleads hagain⟩

/-- **Document paths round trip.** The path of the folder is what `/tree/` is followed by, unless
the text before ends with another `/tree`. -/
theorem document_path_round_trip {before path b : String} (hbefore : ¬ treeSegment <:+: before.toList)
    (hpath : decodeComponent path = .ok b) : ∃ basePath, RoundTrips (before ++ "/tree/" ++ path) basePath ∧
      (¬ "/tree".toList <:+ before.toList → basePath = b) := by
  obtain ⟨leading, rest, basePath, huri, hleads, hbase, hb⟩ := exists_leads hbefore hpath
  exact ⟨basePath, roundTrips_of huri hleads hbase, hb⟩

/-- The provider of the documents on the device's own storage. -/
def externalStorage : String := "content://com.android.externalstorage.documents"

theorem document_path_round_trip_lens : ∃ basePath,
    RoundTrips (externalStorage ++ "/tree/" ++ "primary%3ADocuments%2FOffice%20Lens") basePath ∧
      (¬ "/tree".toList <:+ externalStorage.toList → basePath = "primary:Documents/Office Lens") :=
  document_path_round_trip (by decide +kernel) (by decide +kernel)

end MagicShare.Native
