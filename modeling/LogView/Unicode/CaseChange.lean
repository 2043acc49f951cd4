import LogView.Unicode.Folding
import LogView.Unicode.RangeTable

/-!
# Characters that a change of case changes

Folding, lowering, raising and titling change about what simple case folding lists.  They differ by
the characters that are mapped to several, by the syllables of Cherokee, which are folded to
capital letters, and by letters that are folded although they are small.
-/

namespace LogView
namespace Unicode

/-- What simple case folding lists, and what it is mapped to. -/
def foldable : RangeTable := RangeTable.ofPoints (foldPairs.map Prod.fst)

def folded : RangeTable := RangeTable.ofPoints (foldPairs.map Prod.snd)

def changedByFolding : RangeTable :=
  (RangeTable.join [foldable, RangeTable.ofText
    "DF 130 149 587 1E9A 1F80-1F87 1F90-1F97 1FA0-1FA7 1FB2-1FB4 1FB7 1FC2-1FC4 1FC7 1FF2-1FF4
1FF7 FB00-FB04 FB06 FB13-FB17"]).without
    (RangeTable.ofText "1FBE 1FD3 1FE3")

def changedByLowering : RangeTable :=
  (RangeTable.join [foldable, RangeTable.ofText "130 13A0-13F5"]).without
    (RangeTable.ofText
      "B5 17F 345 3C2 3D0-3D1 3D5-3D6 3F0-3F1 3F5 13F8-13FD 1C80-1C88 1E9B 1FBE 1FD3 1FE3 AB70-ABBF
FB05")

def changedByRaising : RangeTable :=
  (RangeTable.join [folded, RangeTable.ofText
    "B5 131 149 17F 1C5 1C8 1CB 1F0 1F2 345 3C2 3D0-3D1 3D5-3D6 3F0-3F1 3F5 587 13F8-13FD
1C80-1C88 1E96-1E9B 1F50 1F52 1F54 1F56 1F88-1F8F 1F98-1F9F 1FA8-1FAF 1FB2 1FB4 1FB6-1FB7
1FBC 1FBE 1FC2 1FC4 1FC6-1FC7 1FCC 1FD2-1FD3 1FD6-1FD7 1FE2-1FE4 1FE6-1FE7 1FF2 1FF4
1FF6-1FF7 1FFC AB70-ABBF FB00-FB05 FB13-FB17"]).without
    (RangeTable.ofText "13A0-13F5")

def changedByTitling : RangeTable :=
  (RangeTable.join [changedByRaising, RangeTable.ofText "1C4 1C7 1CA 1F1"]).without
    (RangeTable.ofText
      "1C5 1C8 1CB 1F2 10D0-10FA 10FD-10FF 1F88-1F8F 1F98-1F9F 1FA8-1FAF 1FBC 1FCC 1FFC")

def changedByCasing : RangeTable :=
  RangeTable.join [changedByLowering, changedByRaising, changedByTitling]

end Unicode
end LogView
