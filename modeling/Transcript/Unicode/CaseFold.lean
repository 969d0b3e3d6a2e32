import Transcript.Unicode.Packed

/-!
# Case folding

The classes of characters that differ in case only, by the simple case folding of Unicode. A class is
packed as the number of its members less two, the distance of its first member from that of the class
before, and the distances between its members.
-/

namespace Transcript.Unicode

/-- The classes of two or more characters, packed. -/
def packedCaseClasses : List String :=
  ["aCnBgabBgabBgabBgabBgabBgabBgabBgabBgabBgbbBgMKlabBgabBgabBgabBgabBgabBgabBgbbBgKiabBg",
    "abBgabBgabBgabBgabBgabBgbDnBCpBgalBgabBgabBgabBgabBgbbBgMFuabBgabBgabBgabBgabBgabBgabB",
    "gabBgabBgabBgabBgabBgabBgabBgabBgabBgabBgacBgabBgabBgabBgabBgabBgabBgabLGxaBgErabbacba",
    "cbacbacbacbacbacbacbacbacbacbacbacbacbacbacbacbacbacbacbacbacbacbaebacbacbadbacbacbacb",
    "acbacbacbacbadbacbacbacbacbacbacbacbacbacbacbacbacbacbacbacbacbacbacbacbacbacbacbadbac",
    "bacbadHnabIcabbacbacHyabbacHxabHxabbadDbabHuabHvabbacHxabHzabDtabIdabIbabbacGhabCKYzab",
    "IdabIfabFaabIgabbacbacbacIkabbacIkadbacIkabbacIjabIjabbacbacIlabbaebadCebfbbbdbbbdbbad",
    "bacbacbacbacbacbacbacbadbacbacbacbacbacbacbacbacbbdbbadbaebacbacbacbacbacbacbacbacbacb",
    "acbacbacbacbacbacbacbacbacbacbaebacbacbacbacbacbacbacbacbaiPZfabbadPZcabPZzabPZzabbadC",
    "rabCtabbacbacbacbacbacPYtabPYqabPYsakCKPrafCKPnadCKQpabCKOeabCKPgaeCKPgabPXfabCKPdafPX",
    "lamPWpafCKPfafCKOgawCKNlabCKNicGlDgBgKPxaBrbacbaebafFaabFaabFaacEmahBmacBlabBlabBlacCm",
    "acClabClabKShabBgbbBgBeabBgabBgbbBgCmabBgabBgcbBgzBjbcBgCcabBgacBgabBgabBgbbBgwbbBgBwb",
    "cBfbabBgabBgbbBgpabBgabBgbbBgLDdabBgabBgafKRraBfiajbacbacbacbacbacbacbacbacbacbacbacba",
    "ehafbadbagDcabDcabDcabDcabDcabDcabDcabDcabDcabDcabDcabDcabDcabDcabDcabDcabBgabBgbbBgJF",
    "iabBgbbBgJFhabBgabBgabBgabBgabBgabBgabBgabBgabBgbbBgJEyabBgabBgbbBgJEwcbBgJEwbabBgabBg",
    "abBgabBgabBgabBgabBgbbBgJEqabBgabBgabBgabBgabBgaBxbbcbJDsacbacbacbacbacbacbacbacbacbac",
    "bacbacbacbacbacbakbacbacbacbacbacbacbacbacbacbacbacbacbacbacbacbacbacbacbacbacbacbacba",
    "cbacbacbacbacpabbacbacbacbacbacbacbadbacbacbacbacbacbacbacbacbacbacbacbacbacbacbacbacb",
    "acbacbacbacbacbacbacbacbacbacbacbacbacbacbacbacbacbacbacbacbacbacbacbacbacbacbacbacbac",
    "bacbacbadBwabBwabBwabBwabBwabBwabBwabBwabBwabBwabBwabBwabBwabBwabBwabBwabBwabBwabBwabB",
    "wabBwabBwabBwabBwabBwabBwabBwabBwabBwabBwabBwabBwabBwabBwabBwabBwabBwabBwaEHeKTkabKTka",
    "bKTkabKTkabKTkabKTkabKTkabKTkabKTkabKTkabKTkabKTkabKTkabKTkabKTkabKTkabKTkabKTkabKTkab",
    "KTkabKTkabKTkabKTkabKTkabKTkabKTkabKTkabKTkabKTkabKTkabKTkabKTkabKTkabKTkabKTkabKTkabK",
    "TkabKTkacKTkagKTkadELsabELsabELsabELsabELsabELsabELsabELsabELsabELsabELsabELsabELsabEL",
    "sabELsabELsabELsabELsabELsabELsabELsabELsabELsabELsabELsabELsabELsabELsabELsabELsabELs",
    "abELsabELsabELsabELsabELsabELsabELsabELsabELsabELsabELsabELsadELsabELsabELsaZxCFMuabCF",
    "MuabCFMuabCFMuabCFMuabCFMuabCFMuabCFMuabCFMuabCFMuabCFMuabCFMuabCFMuabCFMuabCFMuabCFMu",
    "abCFMuabCFMuabCFMuabCFMuabCFMuabCFMuabCFMuabCFMuabCFMuabCFMuabCFMuabCFMuabCFMuabCFMuab",
    "CFMuabCFMuabCFMuabCFMuabCFMuabCFMuabCFMuabCFMuabCFMuabCFMuabCFMuabCFMuabCFMuabCFMuabCF",
    "MuabCFMuabCFMuabCFMuabCFMuabCFMuabCFMuabCFMuabCFMuabCFMuabCFMuabCFMuabCFMuabCFMuabCFMu",
    "abCFMuabCFMuabCFMuabCFMuabCFMuabCFMuabCFMuabCFMuabCFMuabCFMuabCFMuabCFMuabCFMuabCFMuab",
    "CFMuabCFMuabCFMuabCFMuabCFMuabCFMuabCFMuabiabiabiabiabiabibDGlCAEkbabbaJgCAGyaeFQsarCA",
    "IyaEkbacbacbacbacbacbacbacbacbacbacbacbacbacbacbacbacbacbacbacbacbacbacbacbacbacbacbac",
    "bacbacbacbacbacbacbacbacbacbacbacbacbacbacbacbacbacbacbacbacbbcbCgacbacbacbacbacbacbac",
    "bacbacbacbacbacbacbacbacbacbacbacbacbacbacbacbacbacbacbacbambacbacbacbacbacbacbacbacba",
    "cbacbacbacbacbacbacbacbacbacbacbacbacbacbacbacbacbacbacbacbacbacbacbacbacbacbacbacbacb",
    "acbacbacbacbacbacbacbacbacbacbaciabiabiabiabiabiabiabiajiabiabiabiabiabialiabiabiabiab",
    "iabiabiabiajiabiabiabiabiabiabiabiajiabiabiabiabiabiamiaciaciaciajiabiabiabiabiabiabia",
    "biajCwabCwabDiabDiabDiabDiabDwabDwabEyabEyabEiabEiabEwabEwadiabiabiabiabiabiabiabiajia",
    "biabiabiabiabiabiabiajiabiabiabiabiabiabiabiajiabiacjaqjaniabiapiabiaehaojaMhBcaBuqabq",
    "abqabqabqabqabqabqabqabqabqabqabqabqabqabqaubaBFnBaabBaabBaabBaabBaabBaabBaabBaabBaabB",
    "aabBaabBaabBaabBaabBaabBaabBaabBaabBaabBaabBaabBaabBaabBaabBaabBaaCSvBwabBwabBwabBwabB",
    "wabBwabBwabBwabBwabBwabBwabBwabBwabBwabBwabBwabBwabBwabBwabBwabBwabBwabBwabBwabBwabBwa",
    "bBwabBwabBwabBwabBwabBwabBwabBwabBwabBwabBwabBwabBwabBwabBwabBwabBwabBwabBwabBwabBwabB",
    "waBxbahbacbacbahbadbalbacbacbacbacbacbacbacbacbacbacbacbacbacbacbacbacbacbacbacbacbacb",
    "acbacbacbacbacbacbacbacbacbacbacbacbacbacbacbacbacbacbacbacbacbacbacbacbacbacbacbacbaj",
    "bacbafbaBTYkbacbacbacbacbaebacbacbacbacbacbacbacbacbacbacbacbacbacbacbacbacbaubacbacba",
    "cbacbacbacbacbacbacbacbacbacbacbaFgbacbacbacbacbacbacbaebacbacbacbacbacbacbacbacbacbac",
    "bacbacbacbacbacbacbacbacbacbacbacbacbacbacbacbacbacbacbacbacbalbacbadbacbacbacbacbafba",
    "fbacbacBwacbacbacbacbacbacbacbacbacbacbalBJsabbacbacbacbacbacbacbacbafbacbadbacbacbacb",
    "acbacbacbacbaBbbaBFLwbaBOmBgabBgabBgabBgabBgabBgabBgabBgabBgabBgabBgabBgabBgabBgabBgab",
    "BgabBgabBgabBgabBgabBgabBgabBgabBgabBgabBgaBVaBoabBoabBoabBoabBoabBoabBoabBoabBoabBoab",
    "BoabBoabBoabBoabBoabBoabBoabBoabBoabBoabBoabBoabBoabBoabBoabBoabBoabBoabBoabBoabBoabBo",
    "abBoabBoabBoabBoabBoabBoabBoabBoaFhBoabBoabBoabBoabBoabBoabBoabBoabBoabBoabBoabBoabBoa",
    "bBoabBoabBoabBoabBoabBoabBoabBoabBoabBoabBoabBoabBoabBoabBoabBoabBoabBoabBoabBoabBoabB",
    "oabBoaGbBnabBnabBnabBnabBnabBnabBnabBnabBnabBnabBnacBnabBnabBnabBnabBnabBnabBnabBnabBn",
    "abBnabBnabBnabBnabBnabBnacBnabBnabBnabBnabBnabBnabBnacBnabBnaCQdCmabCmabCmabCmabCmabCm",
    "abCmabCmabCmabCmabCmabCmabCmabCmabCmabCmabCmabCmabCmabCmabCmabCmabCmabCmabCmabCmabCmab",
    "CmabCmabCmabCmabCmabCmabCmabCmabCmabCmabCmabCmabCmabCmabCmabCmabCmabCmabCmabCmabCmabCm",
    "abCmabCmaGcBgabBgabBgabBgabBgabBgabBgabBgabBgabBgabBgabBgabBgabBgabBgabBgabBgabBgabBga",
    "bBgabBgabBgaEGpBgabBgabBgabBgabBgabBgabBgabBgabBgabBgabBgabBgabBgabBgabBgabBgabBgabBga",
    "bBgabBgabBgabBgabBgabBgabBgabBgabBgabBgabBgabBgabBgabBgaBGJxBgabBgabBgabBgabBgabBgabBg",
    "abBgabBgabBgabBgabBgabBgabBgabBgabBgabBgabBgabBgabBgabBgabBgabBgabBgabBgabBgabBgabBgab",
    "BgabBgabBgabBgaCnBbabBbabBbabBbabBbabBbabBbabBbabBbabBbabBbabBbabBbabBbabBbabBbabBbabB",
    "babBbabBbabBbabBbabBbabBbabBbaBUIaBiabBiabBiabBiabBiabBiabBiabBiabBiabBiabBiabBiabBiab",
    "BiabBiabBiabBiabBiabBiabBiabBiabBiabBiabBiabBiabBiabBiabBiabBiabBiabBiabBiabBiabBi"]

/-- Further members of a class: the `k` next numbers are distances from the member before. -/
def unpackMembers (last : Nat) : Nat → List Nat → List Nat × List Nat
  | 0, ns => ([], ns)
  | _ + 1, [] => ([], [])
  | k + 1, n :: ns =>
    let (members, rest) := unpackMembers (last + n) k ns
    ((last + n) :: members, rest)

/-- At most `fuel` classes, the first of them relative to `first`. -/
def unpackClasses (first : Nat) : Nat → List Nat → List (List Nat)
  | fuel + 1, k :: n :: ns =>
    let (members, rest) := unpackMembers (first + n) (k + 1) ns
    ((first + n) :: members) :: unpackClasses (first + n) fuel rest
  | _, _ => []

/-- The code points of each class. -/
def caseClasses : List (List Nat) :=
  let ns := unpackNumbers 0 (packedCaseClasses.flatMap String.toList)
  unpackClasses 0 ns.length ns

/-- A set with every character that differs from a member in case only. -/
def CharSet.foldCase (s : CharSet) : CharSet :=
  caseClasses.foldl (fun acc cls =>
    if cls.any s.containsCode then cls.foldl (fun t n => t.union (.interval n n)) acc else acc) s

/-- The characters that differ from a given one in case only, itself among them, when there are any. -/
def caseVariants? (c : Char) : Option CharSet :=
  (caseClasses.find? fun cls => cls.contains c.toNat).map fun cls =>
    .ofIntervals (cls.map fun n => (n, n))

end Transcript.Unicode
