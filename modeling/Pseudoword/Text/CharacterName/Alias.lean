import Pseudoword.Text.CharacterName.Run

/-! # Further names of characters

Names that characters have besides the ones that they are listed under: those of control characters,
which are listed under none, and corrections of names that were given wrongly.

* `Text.CharacterName.aliases` — the runs of the table.
-/

namespace Pseudoword.Text.CharacterName

/-- The further names. -/
def aliases : List Run :=
  [⟨0x0, ["aNULLaSTART OF HEADINGcTEXTaEND OF TEXTcTRANSMISSIONaENQUIRYaACKNOWLEDGEaALERTaBACKSPACE",
     "aCHARACTER TABULATIONaEND OF LINEaLINE TABULATIONaFORM FEEDaCARRIAGE RETURNaLOCKING-SHIFT ONE",
     "cZEROaDATA LINK ESCAPEaDEVICE CONTROL ONEcTWOcTHREEcFOURaNEGATIVE ACKNOWLEDGEaSYNCHRONOUS IDLE",
     "aEND OF TRANSMISSION BLOCKaCANCELaEND OF MEDIUMaSUBSTITUTEaESCAPEaFILE SEPARATOR",
     "aGROUP SEPARATORaINFORMATION SEPARATOR TWOcONE"]⟩,
   ⟨0x9, ["aHORIZONTAL TABULATIONaLINE FEEDaVERTICAL TABULATION"]⟩,
   ⟨0xA, ["aNEW LINE"]⟩,
   ⟨0xE, ["aSHIFT OUTbIN"]⟩,
   ⟨0x1C, ["aINFORMATION SEPARATOR FOURcTHREEaRECORD SEPARATORaUNIT SEPARATOR"]⟩,
   ⟨0x7F, ["aDELETEaPADDING CHARACTERaHIGH OCTET PRESETaBREAK PERMITTED HEREaNO BREAK HEREaINDEX",
     "aNEXT LINEaSTART OF SELECTED AREAaEND OF SELECTED AREAaCHARACTER TABULATION SET",
     "cWITH JUSTIFICATIONaLINE TABULATION SETaPARTIAL LINE DOWNcBACKWARDaREVERSE INDEX",
     "aSINGLE SHIFT TWOcTHREEaDEVICE CONTROL STRINGaPRIVATE USE ONEcTWOaSET TRANSMIT STATE",
     "aCANCEL CHARACTERaMESSAGE WAITINGaSTART OF GUARDED AREAaEND OF GUARDED AREAaSTART OF STRING",
     "aSINGLE GRAPHIC CHARACTER INTRODUCERbCHARACTER INTRODUCERaCONTROL SEQUENCE INTRODUCER",
     "aSTRING TERMINATORaOPERATING SYSTEM COMMANDaPRIVACY MESSAGEaAPPLICATION PROGRAM COMMAND"]⟩,
   ⟨0x88, ["aHORIZONTAL TABULATION SETcWITH JUSTIFICATIONaVERTICAL TABULATION SET",
     "aPARTIAL LINE FORWARDcUPaREVERSE LINE FEEDaSINGLE-SHIFT-2c3"]⟩,
   ⟨0x91, ["aPRIVATE USE-1c2"]⟩,
   ⟨0x96, ["aSTART OF PROTECTED AREAaEND OF PROTECTED AREA"]⟩,
   ⟨0x1A2, ["aLATIN CAPITAL LETTER GHAbSMALL LETTER GHA"]⟩,
   ⟨0x709, ["aSYRIAC SUBLINEAR COLON SKEWED LEFT"]⟩,
   ⟨0xCDE, ["aKANNADA LETTER LLLA"]⟩,
   ⟨0xE9D, ["aLAO LETTER FO FON"]⟩,
   ⟨0xE9F, ["aLAO LETTER FO FAY"]⟩,
   ⟨0xEA3, ["aLAO LETTER RO"]⟩,
   ⟨0xEA5, ["aLAO LETTER LO"]⟩,
   ⟨0xFD0, ["aTIBETAN MARK BKA- SHOG GI MGO RGYAN"]⟩,
   ⟨0x11EC, ["aHANGUL JONGSEONG YESIEUNG-KIYEOKdSSANGKIYEOKcSSANGYESIEUNGcYESIEUNG-KHIEUKH"]⟩,
   ⟨0x2118, ["aWEIERSTRASS ELLIPTIC FUNCTION"]⟩,
   ⟨0x2448, ["aMICR ON US SYMBOLbDASH SYMBOL"]⟩,
   ⟨0x2B7A, ["aLEFTWARDS TRIANGLE-HEADED ARROW WITH DOUBLE VERTICAL STROKE"]⟩,
   ⟨0x2B7C, ["aRIGHTWARDS TRIANGLE-HEADED ARROW WITH DOUBLE VERTICAL STROKE"]⟩,
   ⟨0xA015, ["aYI SYLLABLE ITERATION MARK"]⟩,
   ⟨0xAA6E, ["aMYANMAR LETTER KHAMTI LLA"]⟩,
   ⟨0xFE18, ["aPRESENTATION FORM FOR VERTICAL RIGHT WHITE LENTICULAR BRACKET"]⟩,
   ⟨0xFEFF, ["aBYTE ORDER MARK"]⟩,
   ⟨0x122D4, ["aCUNEIFORM SIGN NU11 TENUdOVER NU11 BUR OVER BUR"]⟩,
   ⟨0x16E56, ["aMEDEFAIDRIN CAPITAL LETTER HdNG"]⟩,
   ⟨0x16E76, ["aMEDEFAIDRIN SMALL LETTER HdNG"]⟩,
   ⟨0x1B001, ["aHENTAIGANA LETTER E-1"]⟩,
   ⟨0x1D0C5, ["aBYZANTINE MUSICAL SYMBOL FTHORA SKLIRON CHROMA VASIS"]⟩]

end Pseudoword.Text.CharacterName
