import Pseudoword.Text.CharacterName.Run

/-! # Abbreviations of character names

Abbreviations by which control characters, and other characters that are not seen, go as well.

* `Text.CharacterName.abbreviations` — the runs of the table.
-/

namespace Pseudoword.Text.CharacterName

/-- The abbreviations. -/
def abbreviations : List Run :=
  [⟨0x0, ["aNULaSOHaSTXaETXaEOTaENQaACKaBELaBSaHTaEOLaVTaFFaCRaSOaSIaDLEaDC1aDC2aDC3aDC4aNAKaSYNaETB",
     "aCANaEOMaSUBaESCaFSaGSaRSaUSaSP"]⟩,
   ⟨0x9, ["aTABaLF"]⟩,
   ⟨0xA, ["aNL"]⟩,
   ⟨0x7F, ["aDELaPADaHOPaBPHaNBHaINDaNELaSSAaESAaHTSaHTJaVTSaPLDaPLUaRIaSS2aSS3aDCSaPU1aPU2aSTSaCCH",
     "aMWaSPAaEPAaSOSaSGCaSCIaCSIaSTaOSCaPMaAPCaNBSP"]⟩,
   ⟨0xAD, ["aSHY"]⟩,
   ⟨0x34F, ["aCGJ"]⟩,
   ⟨0x61C, ["aALM"]⟩,
   ⟨0x180B, ["aFVS1aFVS2aFVS3aMVSaFVS4"]⟩,
   ⟨0x200B, ["aZWSPaZWNJaZWJaLRMaRLM"]⟩,
   ⟨0x202A, ["aLREaRLEaPDFaLROaRLOaNNBSP"]⟩,
   ⟨0x205F, ["aMMSPaWJ"]⟩,
   ⟨0x2066, ["aLRIaRLIaFSIaPDI"]⟩,
   ⟨0xFE00, ["aVS1aVS2aVS3aVS4aVS5aVS6aVS7aVS8aVS9aVS10aVS11aVS12aVS13aVS14aVS15aVS16"]⟩,
   ⟨0xFEFF, ["aBOM"]⟩,
   ⟨0xFEFF, ["aZWNBSP"]⟩,
   ⟨0xE0100, ["aVS17aVS18aVS19aVS20aVS21aVS22aVS23aVS24aVS25aVS26aVS27aVS28aVS29aVS30aVS31aVS32aVS33",
     "aVS34aVS35aVS36aVS37aVS38aVS39aVS40aVS41aVS42aVS43aVS44aVS45aVS46aVS47aVS48aVS49aVS50aVS51",
     "aVS52aVS53aVS54aVS55aVS56aVS57aVS58aVS59aVS60aVS61aVS62aVS63aVS64aVS65aVS66aVS67aVS68aVS69",
     "aVS70aVS71aVS72aVS73aVS74aVS75aVS76aVS77aVS78aVS79aVS80aVS81aVS82aVS83aVS84aVS85aVS86aVS87",
     "aVS88aVS89aVS90aVS91aVS92aVS93aVS94aVS95aVS96aVS97aVS98aVS99aVS100aVS101aVS102aVS103aVS104",
     "aVS105aVS106aVS107aVS108aVS109aVS110aVS111aVS112aVS113aVS114aVS115aVS116aVS117aVS118aVS119",
     "aVS120aVS121aVS122aVS123aVS124aVS125aVS126aVS127aVS128aVS129aVS130aVS131aVS132aVS133aVS134",
     "aVS135aVS136aVS137aVS138aVS139aVS140aVS141aVS142aVS143aVS144aVS145aVS146aVS147aVS148aVS149",
     "aVS150aVS151aVS152aVS153aVS154aVS155aVS156aVS157aVS158aVS159aVS160aVS161aVS162aVS163aVS164",
     "aVS165aVS166aVS167aVS168aVS169aVS170aVS171aVS172aVS173aVS174aVS175aVS176aVS177aVS178aVS179",
     "aVS180aVS181aVS182aVS183aVS184aVS185aVS186aVS187aVS188aVS189aVS190aVS191aVS192aVS193aVS194",
     "aVS195aVS196aVS197aVS198aVS199aVS200aVS201aVS202aVS203aVS204aVS205aVS206aVS207aVS208aVS209",
     "aVS210aVS211aVS212aVS213aVS214aVS215aVS216aVS217aVS218aVS219aVS220aVS221aVS222aVS223aVS224",
     "aVS225aVS226aVS227aVS228aVS229aVS230aVS231aVS232aVS233aVS234aVS235aVS236aVS237aVS238aVS239",
     "aVS240aVS241aVS242aVS243aVS244aVS245aVS246aVS247aVS248aVS249aVS250aVS251aVS252aVS253aVS254",
     "aVS255aVS256"]⟩]

end Pseudoword.Text.CharacterName
