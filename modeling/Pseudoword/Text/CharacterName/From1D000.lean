import Pseudoword.Text.CharacterName.Run

/-! # Names of the characters U+1D000 to U+1EEF1

The part of the table of character names that begins with U+1D000, as it is in Unicode 14.

* `Text.CharacterName.from1D000` — the runs of the table.
-/

namespace Pseudoword.Text.CharacterName

/-- The names of the characters U+1D000 to U+1EEF1. -/
def from1D000 : List Run :=
  [⟨0x1D000, ["aBYZANTINE MUSICAL SYMBOL PSILIdDASEIAdPERISPOMENIdOXEIA EKFONITIKONeDIPLI",
     "dVAREIA EKFONITIKONeDIPLIdKATHISTIdSYRMATIKIdPARAKLITIKIdYPOKRISISdYPOKRISIS DIPLIdKREMASTI",
     "dAPESO EKFONITIKONdEXO EKFONITIKONdTELEIAdKENTIMATAdAPOSTROFOSdAPOSTROFOS DIPLIdSYNEVMAdTHITA",
     "dOLIGON ARCHAIONdGORGON ARCHAIONdPSILONdCHAMILONdVATHYdISON ARCHAIONdKENTIMA ARCHAION",
     "dKENTIMATA ARCHAIONdSAXIMATAdPARICHONdSTAVROS APODEXIAdOXEIAI ARCHAIONdVAREIAI ARCHAION",
     "dAPODERMA ARCHAIONdAPOTHEMAdKLASMAdREVMAdPIASMA ARCHAIONdTINAGMAdANATRICHISMAdSEISMA",
     "dSYNAGMA ARCHAIONeMETA STAVROUdOYRANISMA ARCHAIONdTHEMAdLEMOIdDYOdTRIAdTESSERAdKRATIMATA",
     "dAPESO EXO NEOdFTHORA ARCHAIONdIMIFTHORAdTROMIKON ARCHAIONdKATAVA TROMIKONdPELASTONdPSIFISTON",
     "dKONTEVMAdCHOREVMA ARCHAIONdRAPISMAdPARAKALESMA ARCHAIONdPARAKLITIKI ARCHAIONdICHADINdNANA",
     "dPETASMAdKONTEVMA ALLOdTROMIKON ALLOdSTRAGGISMATAdGRONTHISMATAdISON NEOdOLIGON NEOdOXEIA NEO",
     "dPETASTIdKOUFISMAdPETASTOKOUFISMAdKRATIMOKOUFISMAdPELASTON NEOdKENTIMATA NEO ANO",
     "dKENTIMA NEO ANOdYPSILIdAPOSTROFOS NEOdAPOSTROFOI SYNDESMOS NEOdYPORROIdKRATIMOYPORROON",
     "dELAFRONdCHAMILIdMIKRON ISONdVAREIA NEOdPIASMA NEOdPSIFISTON NEOdOMALONdANTIKENOMAdLYGISMA",
     "dPARAKLITIKI NEOdPARAKALESMA NEOdETERON PARAKALESMAdKYLISMAdANTIKENOKYLISMAdTROMIKON NEO",
     "dEKSTREPTONdSYNAGMA NEOdSYRMAdCHOREVMA NEOdEPEGERMAdSEISMA NEOdXIRON KLASMAdTROMIKOPSIFISTON",
     "dPSIFISTOLYGISMAdTROMIKOLYGISMAdTROMIKOPARAKALESMAdPSIFISTOPARAKALESMAdTROMIKOSYNAGMA",
     "dPSIFISTOSYNAGMAdGORGOSYNTHETONdARGOSYNTHETONdETERON ARGOSYNTHETONdOYRANISMA NEO",
     "dTHEMATISMOS ESOeEXOdTHEMA APLOUNdTHES KAI APOTHESdKATAVASMAdENDOFONONdYFEN KATOeANOdSTAVROS",
     "dKLASMA ANOdDIPLI ARCHAIONdKRATIMA ARCHAIONeALLOeNEOdAPODERMA NEOdAPLIdDIPLIdTRIPLIdTETRAPLI",
     "dKORONISdLEIMMA ENOS CHRONOUeDYO CHRONONeTRION CHRONONeTESSARON CHRONONeIMISEOS CHRONOU",
     "dGORGON NEO ANOePARESTIGMENON ARISTERAfDEXIAdDIGORGONdDIGORGON PARESTIGMENON ARISTERA KATOgANO",
     "fDEXIAdTRIGORGONdARGONdIMIDIARGONdDIARGONdAGOGI POLI ARGIeARGOTERIeARGIeMETRIAeMESIeGORGI",
     "eGORGOTERIePOLI GORGIdMARTYRIA PROTOS ICHOSeALLI PROTOS ICHOSeDEYTEROS ICHOS",
     "eALLI DEYTEROS ICHOSeTRITOS ICHOSeTRIFONIASeTETARTOS ICHOSfLEGETOS ICHOSeLEGETOS ICHOS",
     "ePLAGIOS ICHOSdISAKIA TELOUS ICHIMATOSdAPOSTROFOI TELOUS ICHIMATOSdFANEROSIS TETRAFONIAS",
     "eMONOFONIASeDIFONIASdMARTYRIA VARYS ICHOSePROTOVARYS ICHOSePLAGIOS TETARTOS ICHOS",
     "dGORTHMIKON N APLOUNfDIPLOUNdENARXIS KAI FTHORA VOUdIMIFONONdIMIFTHORON",
     "dFTHORA ARCHAION DEYTEROU ICHOUeDIATONIKI PAfNANAeNAOS ICHOSeDIATONIKI DIeSKLIRON DIATONON DI",
     "eDIATONIKI KEfZOfNI KATOgANOeMALAKON CHROMA DIFONIASgMONOFONIASdFHTORA SKLIRON CHROMA VASIS",
     "dFTHORA SKLIRON CHROMA SYNAFIeNENANOdCHROA ZYGOSeKLITONeSPATHIdFTHORA I YFESIS TETARTIMORION",
     "eENARMONIOS ANTIFONIAdYFESIS TRITIMORIONdDIESIS TRITIMORIONeTETARTIMORIONeAPLI DYO DODEKATA",
     "eMONOGRAMMOS TESSERA DODEKATAeDIGRAMMOS EX DODEKATAeTRIGRAMMOS OKTO DODEKATA",
     "dYFESIS APLI DYO DODEKATAeMONOGRAMMOS TESSERA DODEKATAeDIGRAMMOS EX DODEKATA",
     "eTRIGRAMMOS OKTO DODEKATAdGENIKI DIESISeYFESISdDIASTOLI APLI MIKRIfMEGALIeDIPLIeTHESEOS",
     "dSIMANSIS THESEOSeTHESEOS DISIMOUfTRISIMOUfTETRASIMOUeARSEOSeARSEOS DISIMOUfTRISIMOU",
     "fTETRASIMOUdDIGRAMMA GGdDIFTOGGOS OUdSTIGMAdARKTIKO PAeVOUeGAeDIeKEeZOeNIdKENTIMATA NEO MESO",
     "dKENTIMA NEO MESOdKENTIMATA NEO KATOdKENTIMA NEO KATOdKLASMA KATOdGORGON NEO KATO"]⟩,
   ⟨0x1D100, ["aMUSICAL SYMBOL SINGLE BARLINEcDOUBLE BARLINEcFINAL BARLINEcREVERSE FINAL BARLINE",
     "cDASHED BARLINEcSHORT BARLINEcLEFT REPEAT SIGNcRIGHT REPEAT SIGNcREPEAT DOTScDAL SEGNOcDA CAPO",
     "cSEGNOcCODAcREPEATED FIGURE-1e2e3cFERMATAcFERMATA BELOWcBREATH MARKcCAESURAcBRACEcBRACKET",
     "cONE-LINE STAFFcTWO-LINE STAFFcTHREE-LINE STAFFcFOUR-LINE STAFFcFIVE-LINE STAFFcSIX-LINE STAFF",
     "dSTRING FRETBOARDcFOUR-STRING FRETBOARDcG CLEFdCLEF OTTAVA ALTAfBASSAcC CLEFcF CLEF",
     "dCLEF OTTAVA ALTAfBASSAcDRUM CLEF-1e2"]⟩,
   ⟨0x1D129, ["aMUSICAL SYMBOL MULTIPLE MEASURE RESTcDOUBLE SHARPdFLATcFLAT UPdDOWNcNATURAL UPdDOWN",
     "cSHARP UPdDOWNcQUARTER TONE SHARPeFLATcCOMMON TIMEcCUT TIMEcOTTAVA ALTAdBASSA",
     "cQUINDICESIMA ALTAdBASSAcMULTI RESTcWHOLE RESTcHALF RESTcQUARTER RESTcEIGHTH REST",
     "cSIXTEENTH RESTcTHIRTY-SECOND RESTcSIXTY-FOURTH RESTcONE HUNDRED TWENTY-EIGHTH RESTcX NOTEHEAD",
     "cPLUS NOTEHEADcCIRCLE X NOTEHEADcSQUARE NOTEHEAD WHITEeBLACKcTRIANGLE NOTEHEAD UP WHITEfBLACK",
     "eLEFT WHITEfBLACKeRIGHT WHITEfBLACKeDOWN WHITEfBLACKeUP RIGHT WHITEgBLACKcMOON NOTEHEAD WHITE",
     "eBLACKcTRIANGLE-ROUND NOTEHEAD DOWN WHITEgBLACKcPARENTHESIS NOTEHEADcVOID NOTEHEAD",
     "cNOTEHEAD BLACKcNULL NOTEHEADcCLUSTER NOTEHEAD WHITEeBLACKcBREVEcWHOLE NOTEcHALF NOTE",
     "cQUARTER NOTEcEIGHTH NOTEcSIXTEENTH NOTEcTHIRTY-SECOND NOTEcSIXTY-FOURTH NOTE",
     "cONE HUNDRED TWENTY-EIGHTH NOTEcCOMBINING STEMdSPRECHGESANG STEMdTREMOLO-1e2e3",
     "cFINGERED TREMOLO-1e2e3cCOMBINING AUGMENTATION DOTdFLAG-1e2e3e4e5cBEGIN BEAMcEND BEAM",
     "cBEGIN TIEcEND TIEcBEGIN SLURcEND SLURcBEGIN PHRASEcEND PHRASEcCOMBINING ACCENTdSTACCATO",
     "dTENUTOdSTACCATISSIMOdMARCATOdMARCATO-STACCATOdACCENT-STACCATOdLOUREcARPEGGIATO UPdDOWN",
     "cCOMBINING DOITdRIPdFLIPdSMEARdBENDdDOUBLE TONGUEdTRIPLE TONGUEcRINFORZANDOcSUBITOcZcPIANO",
     "cMEZZOcFORTEcCRESCENDOcDECRESCENDOcGRACE NOTE SLASHeNO SLASHcTRcTURNcINVERTED TURNcTURN SLASH",
     "dUPcORNAMENT STROKE-1e2e3e4e5e6e7e8e9e10e11cHAUPTSTIMMEcNEBENSTIMMEcEND OF STIMMEcDEGREE SLASH",
     "cCOMBINING DOWN BOWdUP BOWdHARMONICdSNAP PIZZICATOcPEDAL MARKdUP MARKcHALF PEDAL MARK",
     "cGLISSANDO UPdDOWNcWITH FINGERNAILScDAMPcDAMP ALLcMAXIMAcLONGAcBREVIScSEMIBREVIS WHITEdBLACK",
     "cMINIMAcMINIMA BLACKcSEMIMINIMA WHITEdBLACKcFUSA WHITEdBLACKcLONGA PERFECTA REST",
     "dIMPERFECTA RESTcBREVIS RESTcSEMIBREVIS RESTcMINIMA RESTcSEMIMINIMA REST",
     "cTEMPUS PERFECTUM CUM PROLATIONE PERFECTAgIMPERFECTAgPERFECTA DIMINUTION-1",
     "dIMPERFECTUM CUM PROLATIONE PERFECTAgIMPERFECTAgIMPERFECTA DIMINUTION-1i2i3cCROIX",
     "cGREGORIAN C CLEFdF CLEFcSQUARE BcVIRGAcPODATUScCLIVIScSCANDICUScCLIMACUScTORCULUScPORRECTUS",
     "cPORRECTUS FLEXUScSCANDICUS FLEXUScTORCULUS RESUPINUScPES SUBPUNCTIScKIEVAN C CLEF",
     "dEND OF PIECEdFINAL NOTEdRECITATIVE MARKdWHOLE NOTEdHALF NOTEdQUARTER NOTE STEM DOWNgUP",
     "dEIGHTH NOTE STEM DOWNgUPdFLAT SIGNcSORIcKORON"]⟩,
   ⟨0x1D200, ["aGREEK VOCAL NOTATION SYMBOL-1e2e3e4e5e6e7e8e9e10e11e12e13e14e15e16e17e18e19e20e21e22",
     "e23e24e50e51e52e53e54bINSTRUMENTAL NOTATION SYMBOL-1e2e4e5e7e8e11e12e13e14e17e18e19e23e24e25",
     "e26e27e29e30e32e36e37e38e39e40e42e43e45e47e48e49e50e51e52e53e54",
     "aCOMBINING GREEK MUSICAL TRISEMEdTETRASEMEdPENTASEMEaGREEK MUSICAL LEIMMA"]⟩,
   ⟨0x1D2E0, ["aMAYAN NUMERAL ZEROcONEcTWOcTHREEcFOURcFIVEcSIXcSEVENcEIGHTcNINEcTENcELEVENcTWELVE",
     "cTHIRTEENcFOURTEENcFIFTEENcSIXTEENcSEVENTEENcEIGHTEENcNINETEEN"]⟩,
   ⟨0x1D300, ["aMONOGRAM FOR EARTHaDIGRAM FOR HEAVENLY EARTHcHUMAN EARTHcEARTHLY HEAVENdHUMANcEARTH",
     "aTETRAGRAM FOR CENTREcFULL CIRCLEcMIREDcBARRIERcKEEPING SMALLcCONTRARIETYcASCENTcOPPOSITION",
     "cBRANCHING OUTcDEFECTIVENESS OR DISTORTIONcDIVERGENCEcYOUTHFULNESScINCREASEcPENETRATIONcREACH",
     "cCONTACTcHOLDING BACKcWAITINGcFOLLOWINGcADVANCEcRELEASEcRESISTANCEcEASEcJOYcCONTENTION",
     "cENDEAVOURcDUTIEScCHANGEcDECISIVENESScBOLD RESOLUTIONcPACKINGcLEGIONcCLOSENESScKINSHIP",
     "cGATHERINGcSTRENGTHcPURITYcFULLNESScRESIDENCEcLAW OR MODELcRESPONSEcGOING TO MEETcENCOUNTERS",
     "cSTOVEcGREATNESScENLARGEMENTcPATTERNcRITUALcFLIGHTcVASTNESS OR WASTINGcCONSTANCYcMEASURE",
     "cETERNITYcUNITYcDIMINISHMENTcCLOSED MOUTHcGUARDEDNESScGATHERING INcMASSINGcACCUMULATION",
     "cEMBELLISHMENTcDOUBTcWATCHcSINKINGcINNERcDEPARTUREcDARKENINGcDIMMINGcEXHAUSTIONcSEVERANCE",
     "cSTOPPAGEcHARDNESScCOMPLETIONcCLOSUREcFAILUREcAGGRAVATIONcCOMPLIANCEcON THE VERGEcDIFFICULTIES",
     "cLABOURINGcFOSTERING"]⟩,
   ⟨0x1D360, ["aCOUNTING ROD UNIT DIGIT ONEeTWOeTHREEeFOUReFIVEeSIXeSEVENeEIGHTeNINEcTENS DIGIT ONE",
     "eTWOeTHREEeFOUReFIVEeSIXeSEVENeEIGHTeNINEaIDEOGRAPHIC TALLY MARK ONEdTWOdTHREEdFOURdFIVE",
     "aTALLY MARK ONEcFIVE"]⟩,
   ⟨0x1D400, ["aMATHEMATICAL BOLD CAPITAL AdBdCdDdEdFdGdHdIdJdKdLdMdNdOdPdQdRdSdTdUdVdWdXdYdZ",
     "cSMALL AdBdCdDdEdFdGdHdIdJdKdLdMdNdOdPdQdRdSdTdUdVdWdXdYdZbITALIC CAPITAL AdBdCdDdEdFdGdHdIdJ",
     "dKdLdMdNdOdPdQdRdSdTdUdVdWdXdYdZcSMALL AdBdCdDdEdFdG"]⟩,
   ⟨0x1D456, ["aMATHEMATICAL ITALIC SMALL IdJdKdLdMdNdOdPdQdRdSdTdUdVdWdXdYdZbBOLD ITALIC CAPITAL A",
     "eBeCeDeEeFeGeHeIeJeKeLeMeNeOePeQeReSeTeUeVeWeXeYeZdSMALL AeBeCeDeEeFeGeHeIeJeKeLeMeNeOePeQeReS",
     "eTeUeVeWeXeYeZbSCRIPT CAPITAL A"]⟩,
   ⟨0x1D49E, ["aMATHEMATICAL SCRIPT CAPITAL CdD"]⟩,
   ⟨0x1D4A2, ["aMATHEMATICAL SCRIPT CAPITAL G"]⟩,
   ⟨0x1D4A5, ["aMATHEMATICAL SCRIPT CAPITAL JdK"]⟩,
   ⟨0x1D4A9, ["aMATHEMATICAL SCRIPT CAPITAL NdOdPdQ"]⟩,
   ⟨0x1D4AE, ["aMATHEMATICAL SCRIPT CAPITAL SdTdUdVdWdXdYdZcSMALL AdBdCdD"]⟩,
   ⟨0x1D4BB, ["aMATHEMATICAL SCRIPT SMALL F"]⟩,
   ⟨0x1D4BD, ["aMATHEMATICAL SCRIPT SMALL HdIdJdKdLdMdN"]⟩,
   ⟨0x1D4C5, ["aMATHEMATICAL SCRIPT SMALL PdQdRdSdTdUdVdWdXdYdZbBOLD SCRIPT CAPITAL AeBeCeDeEeFeGeH",
     "eIeJeKeLeMeNeOePeQeReSeTeUeVeWeXeYeZdSMALL AeBeCeDeEeFeGeHeIeJeKeLeMeNeOePeQeReSeTeUeVeWeXeYeZ",
     "bFRAKTUR CAPITAL AdB"]⟩,
   ⟨0x1D507, ["aMATHEMATICAL FRAKTUR CAPITAL DdEdFdG"]⟩,
   ⟨0x1D50D, ["aMATHEMATICAL FRAKTUR CAPITAL JdKdLdMdNdOdPdQ"]⟩,
   ⟨0x1D516, ["aMATHEMATICAL FRAKTUR CAPITAL SdTdUdVdWdXdY"]⟩,
   ⟨0x1D51E, ["aMATHEMATICAL FRAKTUR SMALL AdBdCdDdEdFdGdHdIdJdKdLdMdNdOdPdQdRdSdTdUdVdWdXdYdZ",
     "bDOUBLE-STRUCK CAPITAL AeB"]⟩,
   ⟨0x1D53B, ["aMATHEMATICAL DOUBLE-STRUCK CAPITAL DeEeFeG"]⟩,
   ⟨0x1D540, ["aMATHEMATICAL DOUBLE-STRUCK CAPITAL IeJeKeLeM"]⟩,
   ⟨0x1D546, ["aMATHEMATICAL DOUBLE-STRUCK CAPITAL O"]⟩,
   ⟨0x1D54A, ["aMATHEMATICAL DOUBLE-STRUCK CAPITAL SeTeUeVeWeXeY"]⟩,
   ⟨0x1D552, ["aMATHEMATICAL DOUBLE-STRUCK SMALL AeBeCeDeEeFeGeHeIeJeKeLeMeNeOePeQeReSeTeUeVeWeXeYeZ",
     "bBOLD FRAKTUR CAPITAL AeBeCeDeEeFeGeHeIeJeKeLeMeNeOePeQeReSeTeUeVeWeXeYeZdSMALL AeBeCeDeEeFeG",
     "eHeIeJeKeLeMeNeOePeQeReSeTeUeVeWeXeYeZbSANS-SERIF CAPITAL AeBeCeDeEeFeGeHeIeJeKeLeMeNeOePeQeR",
     "eSeTeUeVeWeXeYeZdSMALL AeBeCeDeEeFeGeHeIeJeKeLeMeNeOePeQeReSeTeUeVeWeXeYeZdBOLD CAPITAL AfBfC",
     "fDfEfFfGfHfIfJfKfLfMfNfOfPfQfRfSfTfUfVfWfXfYfZeSMALL AfBfCfDfEfFfGfHfIfJfKfLfMfNfOfPfQfRfSfTfU",
     "fVfWfXfYfZdITALIC CAPITAL AfBfCfDfEfFfGfHfIfJfKfLfMfNfOfPfQfRfSfTfUfVfWfXfYfZeSMALL AfBfCfDfE",
     "fFfGfHfIfJfKfLfMfNfOfPfQfRfSfTfUfVfWfXfYfZdBOLD ITALIC CAPITAL AgBgCgDgEgFgGgHgIgJgKgLgMgNgOgP",
     "gQgRgSgTgUgVgWgXgYgZfSMALL AgBgCgDgEgFgGgHgIgJgKgLgMgNgOgPgQgRgSgTgUgVgWgXgYgZ",
     "bMONOSPACE CAPITAL AdBdCdDdEdFdGdHdIdJdKdLdMdNdOdPdQdRdSdTdUdVdWdXdYdZcSMALL AdBdCdDdEdFdGdHdI",
     "dJdKdLdMdNdOdPdQdRdSdTdUdVdWdXdYdZbITALIC SMALL DOTLESS IeJ"]⟩,
   ⟨0x1D6A8, ["aMATHEMATICAL BOLD CAPITAL ALPHAdBETAdGAMMAdDELTAdEPSILONdZETAdETAdTHETAdIOTAdKAPPA",
     "dLAMDAdMUdNUdXIdOMICRONdPIdRHOdTHETA SYMBOLdSIGMAdTAUdUPSILONdPHIdCHIdPSIdOMEGAcNABLA",
     "cSMALL ALPHAdBETAdGAMMAdDELTAdEPSILONdZETAdETAdTHETAdIOTAdKAPPAdLAMDAdMUdNUdXIdOMICRONdPIdRHO",
     "dFINAL SIGMAdSIGMAdTAUdUPSILONdPHIdCHIdPSIdOMEGAcPARTIAL DIFFERENTIALcEPSILON SYMBOL",
     "cTHETA SYMBOLcKAPPA SYMBOLcPHI SYMBOLcRHO SYMBOLcPI SYMBOLbITALIC CAPITAL ALPHAdBETAdGAMMA",
     "dDELTAdEPSILONdZETAdETAdTHETAdIOTAdKAPPAdLAMDAdMUdNUdXIdOMICRONdPIdRHOdTHETA SYMBOLdSIGMAdTAU",
     "dUPSILONdPHIdCHIdPSIdOMEGAcNABLAcSMALL ALPHAdBETAdGAMMAdDELTAdEPSILONdZETAdETAdTHETAdIOTA",
     "dKAPPAdLAMDAdMUdNUdXIdOMICRONdPIdRHOdFINAL SIGMAdSIGMAdTAUdUPSILONdPHIdCHIdPSIdOMEGA",
     "cPARTIAL DIFFERENTIALcEPSILON SYMBOLcTHETA SYMBOLcKAPPA SYMBOLcPHI SYMBOLcRHO SYMBOLcPI SYMBOL",
     "bBOLD ITALIC CAPITAL ALPHAeBETAeGAMMAeDELTAeEPSILONeZETAeETAeTHETAeIOTAeKAPPAeLAMDAeMUeNUeXI",
     "eOMICRONePIeRHOeTHETA SYMBOLeSIGMAeTAUeUPSILONePHIeCHIePSIeOMEGAdNABLAdSMALL ALPHAeBETAeGAMMA",
     "eDELTAeEPSILONeZETAeETAeTHETAeIOTAeKAPPAeLAMDAeMUeNUeXIeOMICRONePIeRHOeFINAL SIGMAeSIGMAeTAU",
     "eUPSILONePHIeCHIePSIeOMEGAdPARTIAL DIFFERENTIALdEPSILON SYMBOLdTHETA SYMBOLdKAPPA SYMBOL",
     "dPHI SYMBOLdRHO SYMBOLdPI SYMBOLbSANS-SERIF BOLD CAPITAL ALPHAfBETAfGAMMAfDELTAfEPSILONfZETA",
     "fETAfTHETAfIOTAfKAPPAfLAMDAfMUfNUfXIfOMICRONfPIfRHOfTHETA SYMBOLfSIGMAfTAUfUPSILONfPHIfCHIfPSI",
     "fOMEGAeNABLAeSMALL ALPHAfBETAfGAMMAfDELTAfEPSILONfZETAfETAfTHETAfIOTAfKAPPAfLAMDAfMUfNUfXI",
     "fOMICRONfPIfRHOfFINAL SIGMAfSIGMAfTAUfUPSILONfPHIfCHIfPSIfOMEGAePARTIAL DIFFERENTIAL",
     "eEPSILON SYMBOLeTHETA SYMBOLeKAPPA SYMBOLePHI SYMBOLeRHO SYMBOLePI SYMBOLeITALIC CAPITAL ALPHA",
     "gBETAgGAMMAgDELTAgEPSILONgZETAgETAgTHETAgIOTAgKAPPAgLAMDAgMUgNUgXIgOMICRONgPIgRHOgTHETA SYMBOL",
     "gSIGMAgTAUgUPSILONgPHIgCHIgPSIgOMEGAfNABLAfSMALL ALPHAgBETAgGAMMAgDELTAgEPSILONgZETAgETAgTHETA",
     "gIOTAgKAPPAgLAMDAgMUgNUgXIgOMICRONgPIgRHOgFINAL SIGMAgSIGMAgTAUgUPSILONgPHIgCHIgPSIgOMEGA",
     "fPARTIAL DIFFERENTIALfEPSILON SYMBOLfTHETA SYMBOLfKAPPA SYMBOLfPHI SYMBOLfRHO SYMBOLfPI SYMBOL",
     "bBOLD CAPITAL DIGAMMAcSMALL DIGAMMA"]⟩,
   ⟨0x1D7CE, ["aMATHEMATICAL BOLD DIGIT ZEROdONEdTWOdTHREEdFOURdFIVEdSIXdSEVENdEIGHTdNINE",
     "bDOUBLE-STRUCK DIGIT ZEROeONEeTWOeTHREEeFOUReFIVEeSIXeSEVENeEIGHTeNINEbSANS-SERIF DIGIT ZERO",
     "eONEeTWOeTHREEeFOUReFIVEeSIXeSEVENeEIGHTeNINEdBOLD DIGIT ZEROfONEfTWOfTHREEfFOURfFIVEfSIX",
     "fSEVENfEIGHTfNINEbMONOSPACE DIGIT ZEROdONEdTWOdTHREEdFOURdFIVEdSIXdSEVENdEIGHTdNINE",
     "aSIGNWRITING HAND-FIST INDEXcCIRCLE INDEXcCUP INDEXcOVAL INDEXcHINGE INDEXcANGLE INDEX",
     "cFIST INDEX BENTcCIRCLE INDEX BENTcFIST THUMB UNDER INDEX BENTdINDEX RAISED KNUCKLEeCUPPED",
     "eHINGEDeHINGED LOWcCIRCLE INDEX HINGEcFIST INDEX MIDDLEcCIRCLE INDEX MIDDLE",
     "cFIST INDEX MIDDLE BENTfRAISED KNUCKLESfHINGEDeUP MIDDLE HINGEDeHINGED MIDDLE UP",
     "eMIDDLE CONJOINEDfCONJOINED INDEX BENTgMIDDLE BENTgCUPPEDgHINGEDfCROSSED",
     "cCIRCLE INDEX MIDDLE CROSSEDcFIST MIDDLE BENT OVER INDEXdINDEX BENT OVER MIDDLEeMIDDLE THUMB",
     "cCIRCLE INDEX MIDDLE THUMBcFIST INDEX MIDDLE STRAIGHT THUMB BENTfBENT THUMB STRAIGHT",
     "fTHUMB BENTfHINGED SPREAD THUMB SIDEeUP MIDDLE HINGED THUMB SIDEiCONJOINED",
     "eHINGED MIDDLE UP THUMB SIDEeMIDDLE UP SPREAD THUMB FORWARDfTHUMB CUPPEDgCIRCLEDgHOOKEDgHINGED",
     "dTHUMB BETWEEN INDEX MIDDLE STRAIGHTdINDEX MIDDLE CONJOINED THUMB SIDEhSIDE CONJOINEDiBENT",
     "dMIDDLE THUMB HOOKED INDEX UPdINDEX THUMB HOOKED MIDDLE UPeMIDDLE CONJOINED HINGED THUMB SIDE",
     "fCROSSED THUMB SIDEfCONJOINED THUMB FORWARDgCUPPED THUMB FORWARDdMIDDLE THUMB CUPPED INDEX UP",
     "dINDEX THUMB CUPPED MIDDLE UPdMIDDLE THUMB CIRCLED INDEX UPhHINGED",
     "dINDEX THUMB ANGLED OUT MIDDLE UPgIN MIDDLE UPfCIRCLED MIDDLE UPeMIDDLE THUMB CONJOINED HINGED",
     "gANGLED OUTgANGLEDdMIDDLE THUMB ANGLED OUT INDEX UPiCROSSEDgINDEX UP",
     "dINDEX THUMB HOOKED MIDDLE HINGEDcFLAT FOUR FINGERSeFINGERS BENTfHINGEDfCONJOINED",
     "fCONJOINED SPLITcCLAW FOUR FINGERS CONJOINEDcFIST FOUR FINGERS CONJOINED BENT",
     "cHINGE FOUR FINGERS CONJOINEDcFLAT FIVE FINGERS SPREADdHEEL FIVE FINGERS SPREAD",
     "dFIVE FINGERS SPREAD FOUR BENTdHEEL FIVE FINGERS SPREAD FOUR BENTdFIVE FINGERS SPREAD BENT",
     "dHEEL FIVE FINGERS SPREAD BENTdFIVE FINGERS SPREAD THUMB FORWARDcCUP FIVE FINGERS SPREAD",
     "fSPREAD OPENcHINGE FIVE FINGERS SPREAD OPENcOVAL FIVE FINGERS SPREAD",
     "cFLAT FIVE FINGERS SPREAD HINGEDgHINGED THUMB SIDEhNO THUMBcFLATcFLAT BETWEEN PALM FACINGS",
     "dHEELdTHUMB SIDEdHEEL THUMB SIDEdTHUMB BENTeFORWARDdSPLIT INDEX THUMB SIDEeCENTRE",
     "eCENTRE THUMB SIDEgSIDE BENTeLITTLEcCLAWcCLAW THUMB SIDEdNO THUMBdTHUMB FORWARDcHOOK CURLICUE",
     "cHOOKcCUP OPENcCUPcCUP OPEN THUMB SIDEdTHUMB SIDEdOPEN NO THUMBdNO THUMBdOPEN THUMB FORWARD",
     "dTHUMB FORWARDcCURLICUE OPENcCURLICUEcCIRCLEcOVALcOVAL THUMB SIDEdNO THUMBdTHUMB FORWARD",
     "cHINGE OPENdOPEN THUMB FORWARDcHINGEcHINGE SMALLdOPEN THUMB SIDEdTHUMB SIDEdOPEN NO THUMB",
     "dNO THUMBdTHUMB SIDE TOUCHING INDEXeBETWEEN MIDDLE RINGcANGLEcFIST INDEX MIDDLE RING",
     "cCIRCLE INDEX MIDDLE RINGcHINGE INDEX MIDDLE RINGcANGLE INDEX MIDDLE RINGcHINGE LITTLE",
     "cFIST INDEX MIDDLE RING BENTgCONJOINEDcHINGE INDEX MIDDLE RING CONJOINEDcFIST LITTLE DOWN",
     "eDOWN RIPPLE STRAIGHTgCURVEDfOTHERS CIRCLEDeUPdTHUMB UNDER LITTLE UPcCIRCLE LITTLE UP",
     "cOVAL LITTLE UPcANGLE LITTLE UPcFIST LITTLE RAISED KNUCKLEeBENTeTOUCHES THUMBeTHUMB",
     "cHINGE LITTLE THUMBcFIST LITTLE INDEX THUMBcHINGE LITTLE INDEX THUMB",
     "cANGLE LITTLE INDEX THUMB INDEX THUMB OUThTHUMBcFIST LITTLE INDEXcCIRCLE LITTLE INDEX",
     "cHINGE LITTLE INDEXcANGLE LITTLE INDEXcFIST INDEX MIDDLE LITTLEcCIRCLE INDEX MIDDLE LITTLE",
     "cHINGE INDEX MIDDLE LITTLEdRINGcANGLE INDEX MIDDLE LITTLEcFIST INDEX MIDDLE CROSS LITTLE",
     "cCIRCLE INDEX MIDDLE CROSS LITTLEcFIST RING DOWNcHINGE RING DOWN INDEX THUMB HOOK MIDDLE",
     "cANGLE RING DOWN MIDDLE THUMB INDEX CROSScFIST RING UPeRAISED KNUCKLEeLITTLE",
     "cCIRCLE RING LITTLEcOVAL RING LITTLEcANGLE RING LITTLEcFIST RING MIDDLEeMIDDLE CONJOINED",
     "fRAISED KNUCKLESeINDEXeTHUMBcHOOK RING THUMBcFIST INDEX RING LITTLEcCIRCLE INDEX RING LITTLE",
     "cCURLICUE INDEX RING LITTLE ONcHOOK INDEX RING LITTLE OUTgINgUNDERcCUP INDEX RING LITTLE",
     "cHINGE INDEX RING LITTLEcANGLE INDEX RING LITTLE OUTfLITTLEcFIST MIDDLE DOWNcHINGE MIDDLE",
     "cFIST MIDDLE UPcCIRCLE MIDDLE UPcFIST MIDDLE RAISED KNUCKLEeUP THUMB SIDEcHOOK MIDDLE THUMB",
     "cFIST MIDDLE THUMB LITTLEeLITTLEeRING LITTLEcCIRCLE MIDDLE RING LITTLE",
     "cCURLICUE MIDDLE RING LITTLE ONcCUP MIDDLE RING LITTLEcHINGE MIDDLE RING LITTLE",
     "cANGLE MIDDLE RING LITTLE OUTgINfLITTLEcCIRCLE MIDDLE RING LITTLE BENT",
     "cCLAW MIDDLE RING LITTLE CONJOINEDgCONJOINED SIDEcHOOK MIDDLE RING LITTLE CONJOINED OUThIN",
     "gCONJOINEDcHINGE INDEX HINGEDcFIST INDEX THUMB SIDEcHINGE INDEX THUMB SIDE",
     "cFIST INDEX THUMB SIDE THUMB DIAGONALhCONJOINEDhBENTgINDEX BENTgBOTH BENTgINDEX HINGE",
     "fFORWARD INDEX STRAIGHThBENTfHOOKfCURLICUEfCURVE THUMB INSIDE",
     "cCLAW INDEX THUMB CURVE THUMB INSIDEcFIST INDEX THUMB CURVE THUMB UNDERfCIRCLEcCUP INDEX THUMB",
     "eTHUMB OPENcHINGE INDEX THUMB OPENfLARGEeTHUMBeTHUMB SMALLcANGLE INDEX THUMB OUTfINeTHUMB",
     "cFIST THUMBdTHUMB HEELeSIDE DIAGONALfCONJOINEDfBENTeFORWARDeBETWEEN INDEX MIDDLEfMIDDLE RING",
     "fRING LITTLEeUNDER TWO FINGERSeOVER TWO FINGERSeUNDER THREE FINGERSfFOUR FINGERS",
     "eOVER FOUR RAISED KNUCKLEScFISTcFIST HEELbTOUCH SINGLEcMULTIPLEcBETWEENbGRASP SINGLEcMULTIPLE",
     "cBETWEENbSTRIKE SINGLEcMULTIPLEcBETWEENbBRUSH SINGLEcMULTIPLEcBETWEENbRUB SINGLEcMULTIPLE",
     "cBETWEENbSURFACE SYMBOLScBETWEENbSQUEEZE LARGE SINGLEcSMALL SINGLEcLARGE MULTIPLE",
     "cSMALL MULTIPLEcSEQUENTIALbFLICK LARGE SINGLEcSMALL SINGLEcLARGE MULTIPLEcSMALL MULTIPLE",
     "cSEQUENTIALbSQUEEZE FLICK ALTERNATINGbMOVEMENT-HINGE UP DOWN LARGEfSMALLeSEQUENTIAL",
     "dDOWN SEQUENTIALdUP DOWN ALTERNATING LARGEgSMALLdSIDE TO SIDE SCISSORS",
     "cWALLPLANE FINGER CONTACTcFLOORPLANE FINGER CONTACTcWALLPLANE SINGLE STRAIGHT SMALLfMEDIUM",
     "fLARGEfLARGESTeWRIST FLEXdDOUBLE STRAIGHTeWRIST FLEXeALTERNATINGeALTERNATING WRIST FLEXdCROSS",
     "dTRIPLE STRAIGHT MOVEMENTeWRIST FLEXeALTERNATINGeALTERNATING WRIST FLEXdBEND SMALLeMEDIUM",
     "eLARGEdCORNER SMALLeMEDIUMeLARGEeROTATIONdCHECK SMALLeMEDIUMeLARGEdBOX SMALLeMEDIUMeLARGE",
     "dZIGZAG SMALLeMEDIUMeLARGEdPEAKS SMALLeMEDIUMeLARGEbTRAVEL-WALLPLANE ROTATION-WALLPLANE SINGLE",
     "fDOUBLEfALTERNATINGeFLOORPLANE SINGLEfDOUBLEfALTERNATINGdSHAKINGdARM SPIRAL SINGLEfDOUBLE",
     "fTRIPLEbMOVEMENT-DIAGONAL AWAY SMALLeMEDIUMeLARGEeLARGESTdTOWARDS SMALLeMEDIUMeLARGEeLARGEST",
     "dBETWEEN AWAY SMALLfMEDIUMfLARGEfLARGESTeTOWARDS SMALLfMEDIUMfLARGEfLARGEST",
     "cFLOORPLANE SINGLE STRAIGHT SMALLfMEDIUMfLARGEfLARGESTeWRIST FLEXdDOUBLE STRAIGHTeWRIST FLEX",
     "eALTERNATINGeALTERNATING WRIST FLEXdCROSSdTRIPLE STRAIGHT MOVEMENTeWRIST FLEX",
     "eALTERNATING MOVEMENTfWRIST FLEXdBENDdCORNER SMALLeMEDIUMeLARGEdCHECKdBOX SMALLeMEDIUMeLARGE",
     "dZIGZAG SMALLeMEDIUMeLARGEdPEAKS SMALLeMEDIUMeLARGE",
     "bTRAVEL-FLOORPLANE ROTATION-FLOORPLANE SINGLEfDOUBLEfALTERNATINGeWALLPLANE SINGLEfDOUBLE",
     "fALTERNATINGdSHAKINGbMOVEMENT-WALLPLANE CURVE QUARTER SMALLfMEDIUMfLARGEfLARGEST",
     "eHALF-CIRCLE SMALLgMEDIUMgLARGEgLARGESTeTHREE-QUARTER CIRCLE SMALLhMEDIUMdHUMP SMALLeMEDIUM",
     "eLARGEdLOOP SMALLeMEDIUMeLARGEeSMALL DOUBLEdWAVE CURVE DOUBLE SMALLgMEDIUMgLARGEfTRIPLE SMALL",
     "gMEDIUMgLARGEdCURVE THEN STRAIGHTdCURVED CROSS SMALLfMEDIUMbROTATION-WALLPLANE SINGLEdDOUBLE",
     "dALTERNATEbMOVEMENT-WALLPLANE SHAKINGdCURVE HITTING FRONT WALLdHUMP HITTING FRONT WALL",
     "dLOOP HITTING FRONT WALLdWAVE HITTING FRONT WALLbROTATION-WALLPLANE SINGLE HITTING FRONT WALL",
     "dDOUBLE HITTING FRONT WALLdALTERNATING HITTING FRONT WALL",
     "bMOVEMENT-WALLPLANE CURVE HITTING CHESTdHUMP HITTING CHESTdLOOP HITTING CHEST",
     "dWAVE HITTING CHESTbROTATION-WALLPLANE SINGLE HITTING CHESTdDOUBLE HITTING CHEST",
     "dALTERNATING HITTING CHESTbMOVEMENT-WALLPLANE WAVE DIAGONAL PATH SMALLgMEDIUMgLARGE",
     "cFLOORPLANE CURVE HITTING CEILING SMALLgLARGEdHUMP HITTING CEILING SMALL DOUBLEgLARGE DOUBLE",
     "gSMALL TRIPLEgLARGE TRIPLEdLOOP HITTING CEILING SMALL SINGLEgLARGE SINGLEgSMALL DOUBLE",
     "gLARGE DOUBLEdWAVE HITTING CEILING SMALLgLARGEbROTATION-FLOORPLANE SINGLE HITTING CEILING",
     "dDOUBLE HITTING CEILINGdALTERNATING HITTING CEILING",
     "bMOVEMENT-FLOORPLANE CURVE HITTING FLOOR SMALLgLARGEdHUMP HITTING FLOOR SMALL DOUBLE",
     "gLARGE DOUBLEgTRIPLE SMALL TRIPLEhLARGE TRIPLEdLOOP HITTING FLOOR SMALL SINGLEgLARGE SINGLE",
     "gSMALL DOUBLEgLARGE DOUBLEdWAVE HITTING FLOOR SMALLgLARGE",
     "bROTATION-FLOORPLANE SINGLE HITTING FLOORdDOUBLE HITTING FLOORdALTERNATING HITTING FLOOR",
     "bMOVEMENT-FLOORPLANE CURVE SMALLeMEDIUMeLARGEeLARGESTeCOMBINEDdHUMP SMALLdLOOP SMALL",
     "dWAVE SNAKEeSMALLeLARGEbROTATION-FLOORPLANE SINGLEdDOUBLEdALTERNATING",
     "bMOVEMENT-FLOORPLANE SHAKING PARALLELcWALLPLANE ARM CIRCLE SMALL SINGLEfMEDIUM SINGLE",
     "fSMALL DOUBLEfMEDIUM DOUBLEcFLOORPLANE ARM CIRCLE HITTING WALL SMALL SINGLEhMEDIUM SINGLE",
     "hLARGE SINGLEhSMALL DOUBLEhMEDIUM DOUBLEhLARGE DOUBLEcWALLPLANE WRIST CIRCLE FRONT SINGLE",
     "gDOUBLEcFLOORPLANE WRIST CIRCLE HITTING WALL SINGLEhDOUBLEcWALLPLANE FINGER CIRCLES SINGLE",
     "fDOUBLEcFLOORPLANE FINGER CIRCLES HITTING WALL SINGLEhDOUBLEbDYNAMIC ARROWHEAD SMALLdLARGE",
     "cFASTcSLOWcTENSEcRELAXEDcSIMULTANEOUScSIMULTANEOUS ALTERNATINGcEVERY OTHER TIMEcGRADUALbHEAD",
     "bHEAD RIMcMOVEMENT-WALLPLANE STRAIGHTeTILTdFLOORPLANE STRAIGHTdWALLPLANE CURVE",
     "dFLOORPLANE CURVEcMOVEMENT CIRCLEbFACE DIRECTION POSITION NOSE FORWARD TILTINGfUP OR DOWN",
     "hDOWN TILTINGbEYEBROWS STRAIGHT UPdNEUTRALdDOWNbDREAMY EYEBROWS NEUTRAL DOWNdDOWN NEUTRAL",
     "dUP NEUTRALdNEUTRAL UPbFOREHEAD NEUTRALcCONTACTcWRINKLEDbEYES OPENcSQUEEZEDcCLOSED",
     "bEYE BLINK SINGLEdMULTIPLEbEYES HALF OPENcWIDE OPENcHALF CLOSEDcWIDENING MOVEMENTbEYE WINK",
     "bEYELASHES UPcDOWNcFLUTTERINGbEYEGAZE-WALLPLANE STRAIGHTdSTRAIGHT DOUBLEeALTERNATING",
     "cFLOORPLANE STRAIGHTdSTRAIGHT DOUBLEeALTERNATINGcWALLPLANE CURVEDcFLOORPLANE CURVED",
     "cWALLPLANE CIRCLINGbCHEEKS PUFFEDcNEUTRALcSUCKEDbTENSE CHEEKS HIGHdMIDDLEdLOWbEARS",
     "bNOSE NEUTRALcCONTACTcWRINKLEScWIGGLESbAIR BLOWING OUTcSUCKING INcBLOW SMALL ROTATIONS",
     "cSUCK SMALL ROTATIONSbBREATH INHALEcEXHALEbMOUTH CLOSED NEUTRALdFORWARDdCONTACTcSMILE",
     "cSMILE WRINKLEDdOPENcFROWNcFROWN WRINKLEDdOPENcOPEN CIRCLEdFORWARDdWRINKLEDdOVALdOVAL WRINKLED",
     "eYAWNdRECTANGLEdRECTANGLE WRINKLEDeYAWNcKISScKISS FORWARDdWRINKLEDcTENSEcTENSE FORWARDdSUCKED",
     "bLIPS PRESSED TOGETHERbLIP LOWER OVER UPPERcUPPER OVER LOWERbMOUTH CORNERScWRINKLES SINGLE",
     "dDOUBLEbTONGUE STICKING OUT FARcLICKING LIPScTIP BETWEEN LIPSdTOUCHING INSIDE MOUTH",
     "cINSIDE MOUTH RELAXEDcMOVES AGAINST CHEEKcCENTRE STICKING OUTdINSIDE MOUTHbTEETH",
     "bTEETH MOVEMENTcON TONGUEdTONGUE MOVEMENTdLIPSdLIPS MOVEMENTcBITE LIPSbMOVEMENT-WALLPLANE JAW",
     "cFLOORPLANE JAWbNECKbHAIRbEXCITEMENTbSHOULDER HIP SPINEdPOSITIONSbWALLPLANE SHOULDER HIP MOVE",
     "bFLOORPLANE SHOULDER HIP MOVEbSHOULDER TILTING FROM WAISTbTORSO-WALLPLANE STRAIGHT STRETCH",
     "dCURVED BENDcFLOORPLANE TWISTINGbUPPER BODY TILTING FROM HIP JOINTSbLIMB COMBINATIONcLENGTH-1",
     "d2d3d4d5d6d7bFINGERbLOCATION-WALLPLANE SPACEcFLOORPLANE SPACEbLOCATION HEIGHTcWIDTHcDEPTH",
     "cHEAD NECKcTORSOcLIMBS DIGITSbCOMMAbFULL STOPbSEMICOLONbCOLONbPARENTHESIS"]⟩,
   ⟨0x1DA9B, ["aSIGNWRITING FILL MODIFIER-2d3d4d5d6"]⟩,
   ⟨0x1DAA1, ["aSIGNWRITING ROTATION MODIFIER-2d3d4d5d6d7d8d9d10d11d12d13d14d15d16"]⟩,
   ⟨0x1DF00, ["aLATIN SMALL LETTER FENG DIGRAPH WITH TRILLdREVERSED SCRIPT G",
     "bLETTER SMALL CAPITAL TURNED GbSMALL LETTER REVERSED KbLETTER SMALL CAPITAL L WITH BELT",
     "bSMALL LETTER LEZH WITH RETROFLEX HOOKdTURNED Y WITH BELTdREVERSED ENG",
     "dTURNED R WITH LONG LEG AND RETROFLEX HOOKdT WITH HOOK AND RETROFLEX HOOK",
     "bLETTER RETROFLEX CLICK WITH RETROFLEX HOOKbSMALL LETTER ESH WITH DOUBLE BARgBAR AND CURL",
     "dTURNED T WITH CURLbLETTER INVERTED GLOTTAL STOP WITH CURLcSTRETCHED C WITH CURL",
     "cSMALL CAPITAL TURNED KbSMALL LETTER L WITH FISHHOOKdDEZH DIGRAPH WITH PALATAL HOOK",
     "dL WITH BELT AND PALATAL HOOKdENG WITH PALATAL HOOKdTURNED R WITH PALATAL HOOK",
     "dR WITH FISHHOOK AND PALATAL HOOKdTESH DIGRAPH WITH PALATAL HOOKdEZH WITH PALATAL HOOK",
     "dDEZH DIGRAPH WITH RETROFLEX HOOKdI WITH STROKE AND RETROFLEX HOOKdO WITH RETROFLEX HOOK",
     "dTESH DIGRAPH WITH RETROFLEX HOOKdC WITH RETROFLEX HOOKdS WITH CURL"]⟩,
   ⟨0x1E000, ["aCOMBINING GLAGOLITIC LETTER AZUdBUKYdVEDEdGLAGOLIdDOBROdYESTUdZHIVETE"]⟩,
   ⟨0x1E008, ["aCOMBINING GLAGOLITIC LETTER ZEMLJAdIZHEdINITIAL IZHEdIdDJERVIdKAKOdLJUDIJEdMYSLITE",
     "dNASHIdONUdPOKOJIdRITSIdSLOVOdTVRIDOdUKUdFRITUdHERU"]⟩,
   ⟨0x1E01B, ["aCOMBINING GLAGOLITIC LETTER SHTAdTSIdCHRIVIdSHAdYERUdYERIdYATI"]⟩,
   ⟨0x1E023, ["aCOMBINING GLAGOLITIC LETTER YUdSMALL YUS"]⟩,
   ⟨0x1E026, ["aCOMBINING GLAGOLITIC LETTER YOdIOTATED SMALL YUSdBIG YUSdIOTATED BIG YUSdFITA"]⟩,
   ⟨0x1E100, ["aNYIAKENG PUACHUE HMONG LETTER MAeTSAeNTAeTAeHAeNAeXAeNKAeCAeLAeSAeZAeNCAeNTSAeKAeDA",
     "eNYAeNRAeVAeNTXAeTXAeFAeRAeQAeYAeNQAePAeXYAeNPAeDLAeNPLAeHAHeMLAePLAeGAeRRAeAeAAeIeUeOeOOeEeEE",
     "eW"]⟩,
   ⟨0x1E130, ["aNYIAKENG PUACHUE HMONG TONE-BeMeJeVeSeGeDdSIGN FOR PERSONfTHINGfLOCATIONfANIMAL",
     "fINVERTEBRATEeXW XWdSYLLABLE LENGTHENER"]⟩,
   ⟨0x1E140, ["aNYIAKENG PUACHUE HMONG DIGIT ZEROeONEeTWOeTHREEeFOUReFIVEeSIXeSEVENeEIGHTeNINE"]⟩,
   ⟨0x1E14E, ["aNYIAKENG PUACHUE HMONG LOGOGRAM NYAJdCIRCLED CA"]⟩,
   ⟨0x1E290, ["aTOTO LETTER PAcBAcTAcDAcKAcGAcMAcNAcNGAcSAcCHAcYAcWAcJAcHAcRAcLAcIcBREATHY IcIU",
     "cBREATHY IUcUcEcBREATHY EcEOcBREATHY EOcOcAEcBREATHY AEcAbSIGN RISING TONE"]⟩,
   ⟨0x1E2C0, ["aWANCHO LETTER AAcAcBAcCAcDAcGAcYAcPHAcLAcNAcPAcTAcTHAcFAcSAcSHAcJAcZAcWAcVAcKAcOcAU",
     "cRAcMAcKHAcHAcEcIcNGAcUcLLHAcTSAcTRAcONGcAANGcANGcINGcONcENcAANcNYAcUENcYIHbTONE TUPcTUPNIcKOI",
     "cKOINIbDIGIT ZEROcONEcTWOcTHREEcFOURcFIVEcSIXcSEVENcEIGHTcNINE"]⟩,
   ⟨0x1E2FF, ["aWANCHO NGUN SIGN"]⟩,
   ⟨0x1E7E0, ["aETHIOPIC SYLLABLE HHYAcHHYUcHHYIcHHYAAcHHYEEcHHYEcHHYO"]⟩,
   ⟨0x1E7E8, ["aETHIOPIC SYLLABLE GURAGE HHWAcHHWIcHHWEEcHHWE"]⟩,
   ⟨0x1E7ED, ["aETHIOPIC SYLLABLE GURAGE MWIdMWEE"]⟩,
   ⟨0x1E7F0, ["aETHIOPIC SYLLABLE GURAGE QWIdQWEEdQWEdBWIdBWEEdKWIdKWEEdKWEdGWIdGWEEdGWEdFWIdFWEE",
     "dPWIdPWEE"]⟩,
   ⟨0x1E800, ["aMENDE KIKAKUI SYLLABLE M001 KIdM002 KAdM003 KUdM065 KEEdM095 KEdM076 KOOdM048 KO",
     "dM179 KUAdM004 WIdM005 WAdM006 WUdM126 WEEdM118 WEdM114 WOOdM045 WOdM194 WUIdM143 WEIdM061 WVI",
     "dM049 WVAdM139 WVEdM007 MINdM008 MANdM009 MUNdM059 MENdM094 MONdM154 MUANdM189 MUENdM010 BI",
     "dM011 BAdM012 BUdM150 BEEdM097 BEdM103 BOOdM138 BOdM013 IdM014 AdM015 UdM163 EEdM100 EdM165 OO",
     "dM147 OdM137 EIdM131 INdM135 INdM195 ANdM178 ENdM019 SIdM020 SAdM021 SUdM162 SEEdM116 SE",
     "dM136 SOOdM079 SOdM196 SIAdM025 LIdM026 LAdM027 LUdM084 LEEdM073 LEdM054 LOOdM153 LO",
     "dM110 LONG LEdM016 DIdM017 DAdM018 DUdM089 DEEdM180 DOOdM181 DOdM022 TIdM023 TAdM024 TU",
     "dM091 TEEdM055 TEdM104 TOOdM069 TOdM028 JIdM029 JAdM030 JUdM157 JEEdM113 JEdM160 JOOdM063 JO",
     "dM175 LONG JOdM031 YIdM032 YAdM033 YUdM109 YEEdM080 YEdM141 YOOdM121 YOdM034 FIdM035 FA",
     "dM036 FUdM078 FEEdM075 FEdM133 FOOdM088 FOdM197 FUAdM101 FANdM037 NINdM038 NANdM039 NUN",
     "dM117 NENdM169 NONdM176 HIdM041 HAdM186 HUdM040 HEEdM096 HEdM042 HOOdM140 HOdM083 HEEI",
     "dM128 HOOUdM053 HINdM130 HANdM087 HUNdM052 HENdM193 HONdM046 HUANdM090 NGGIdM043 NGGA",
     "dM082 NGGUdM115 NGGEEdM146 NGGEdM156 NGGOOdM120 NGGOdM159 NGGAAdM127 NGGUAdM086 LONG NGGE",
     "dM106 LONG NGGOOdM183 LONG NGGOdM155 GIdM111 GAdM168 GUdM190 GEEdM166 GUEIdM167 GUANdM184 NGEN",
     "dM057 NGONdM177 NGUANdM068 PIdM099 PAdM050 PUdM081 PEEdM051 PEdM102 POOdM066 POdM145 MBI",
     "dM062 MBAdM122 MBUdM047 MBEEdM188 MBEEdM072 MBEdM172 MBOOdM174 MBOdM187 MBUUdM161 LONG MBE",
     "dM105 LONG MBOOdM142 LONG MBOdM132 KPIdM092 KPAdM074 KPUdM044 KPEEdM108 KPEdM112 KPOOdM158 KPO",
     "dM124 GBIdM056 GBAdM148 GBUdM093 GBEEdM107 GBEdM071 GBOOdM070 GBOdM171 RAdM123 NDIdM129 NDA",
     "dM125 NDUdM191 NDEEdM119 NDEdM067 NDOOdM064 NDOdM152 NJAdM192 NJUdM149 NJEEdM134 NJOOdM182 VI",
     "dM185 VAdM151 VUdM173 VEEdM085 VEdM144 VOOdM077 VOdM164 NYINdM058 NYANdM170 NYUNdM098 NYEN",
     "dM060 NYON"]⟩,
   ⟨0x1E8C7, ["aMENDE KIKAKUI DIGIT ONEdTWOdTHREEdFOURdFIVEdSIXdSEVENdEIGHTdNINE",
     "cCOMBINING NUMBER TEENSeTENSeHUNDREDSeTHOUSANDSeTEN THOUSANDSeHUNDRED THOUSANDSeMILLIONS"]⟩,
   ⟨0x1E900, ["aADLAM CAPITAL LETTER ALIFdDAALIdLAAMdMIIMdBAdSINNYIIYHEdPEdBHEdRAdEdFAdIdOdDHAdYHE",
     "dWAWdNUNdKAFdYAdUdJIIMdCHIdHAdQAAFdGAdNYAdTUdNHAdVAdKHAdGBEdZALdKPOdSHAbSMALL LETTER ALIF",
     "dDAALIdLAAMdMIIMdBAdSINNYIIYHEdPEdBHEdRAdEdFAdIdOdDHAdYHEdWAWdNUNdKAFdYAdUdJIIMdCHIdHAdQAAFdGA",
     "dNYAdTUdNHAdVAdKHAdGBEdZALdKPOdSHAbALIF LENGTHENERbVOWEL LENGTHENERbGEMINATION MARKbHAMZA",
     "bCONSONANT MODIFIERbGEMINATE CONSONANT MODIFIERbNUKTAbNASALIZATION MARK"]⟩,
   ⟨0x1E950, ["aADLAM DIGIT ZEROcONEcTWOcTHREEcFOURcFIVEcSIXcSEVENcEIGHTcNINE"]⟩,
   ⟨0x1E95E, ["aADLAM INITIAL EXCLAMATION MARKcQUESTION MARK"]⟩,
   ⟨0x1EC71, ["aINDIC SIYAQ NUMBER ONEdTWOdTHREEdFOURdFIVEdSIXdSEVENdEIGHTdNINEdTENdTWENTYdTHIRTY",
     "dFORTYdFIFTYdSIXTYdSEVENTYdEIGHTYdNINETYdONE HUNDREDdTWO HUNDREDdTHREE HUNDREDdFOUR HUNDRED",
     "dFIVE HUNDREDdSIX HUNDREDdSEVEN HUNDREDdEIGHT HUNDREDdNINE HUNDREDdONE THOUSANDdTWO THOUSAND",
     "dTHREE THOUSANDdFOUR THOUSANDdFIVE THOUSANDdSIX THOUSANDdSEVEN THOUSANDdEIGHT THOUSAND",
     "dNINE THOUSANDdTEN THOUSANDdTWENTY THOUSANDdTHIRTY THOUSANDdFORTY THOUSANDdFIFTY THOUSAND",
     "dSIXTY THOUSANDdSEVENTY THOUSANDdEIGHTY THOUSANDdNINETY THOUSANDdLAKHdLAKHANcLAKH MARK",
     "cNUMBER KARORdKARORANdPREFIXED ONEeTWOeTHREEeFOUReFIVEeSIXeSEVENeEIGHTeNINEcPLACEHOLDER",
     "cFRACTION ONE QUARTEReHALFdTHREE QUARTERScRUPEE MARKcNUMBER ALTERNATE ONEeTWOeTEN THOUSAND",
     "cALTERNATE LAKH MARK"]⟩,
   ⟨0x1ED01, ["aOTTOMAN SIYAQ NUMBER ONEdTWOdTHREEdFOURdFIVEdSIXdSEVENdEIGHTdNINEdTENdTWENTYdTHIRTY",
     "dFORTYdFIFTYdSIXTYdSEVENTYdEIGHTYdNINETYdONE HUNDREDdTWO HUNDREDdTHREE HUNDREDdFOUR HUNDRED",
     "dFIVE HUNDREDdSIX HUNDREDdSEVEN HUNDREDdEIGHT HUNDREDdNINE HUNDREDdONE THOUSANDdTWO THOUSAND",
     "dTHREE THOUSANDdFOUR THOUSANDdFIVE THOUSANDdSIX THOUSANDdSEVEN THOUSANDdEIGHT THOUSAND",
     "dNINE THOUSANDdTEN THOUSANDdTWENTY THOUSANDdTHIRTY THOUSANDdFORTY THOUSANDdFIFTY THOUSAND",
     "dSIXTY THOUSANDdSEVENTY THOUSANDdEIGHTY THOUSANDdNINETY THOUSANDcMARRATANcALTERNATE NUMBER TWO",
     "eTHREEeFOUReFIVEeSIXeSEVENeEIGHTeNINEeTENeFOUR HUNDREDeSIX HUNDREDeTWO THOUSANDeTEN THOUSAND",
     "cFRACTION ONE HALFeSIXTH"]⟩,
   ⟨0x1EE00, ["aARABIC MATHEMATICAL ALEFcBEHcJEEMcDAL"]⟩,
   ⟨0x1EE05, ["aARABIC MATHEMATICAL WAWcZAINcHAHcTAHcYEHcKAFcLAMcMEEMcNOONcSEENcAINcFEHcSADcQAFcREH",
     "cSHEENcTEHcTHEHcKHAHcTHALcDADcZAHcGHAINcDOTLESS BEHdNOONdFEHdQAF"]⟩,
   ⟨0x1EE21, ["aARABIC MATHEMATICAL INITIAL BEHdJEEM"]⟩,
   ⟨0x1EE24, ["aARABIC MATHEMATICAL INITIAL HEH"]⟩,
   ⟨0x1EE27, ["aARABIC MATHEMATICAL INITIAL HAH"]⟩,
   ⟨0x1EE29, ["aARABIC MATHEMATICAL INITIAL YEHdKAFdLAMdMEEMdNOONdSEENdAINdFEHdSADdQAF"]⟩,
   ⟨0x1EE34, ["aARABIC MATHEMATICAL INITIAL SHEENdTEHdTHEHdKHAH"]⟩,
   ⟨0x1EE39, ["aARABIC MATHEMATICAL INITIAL DAD"]⟩,
   ⟨0x1EE3B, ["aARABIC MATHEMATICAL INITIAL GHAIN"]⟩,
   ⟨0x1EE42, ["aARABIC MATHEMATICAL TAILED JEEM"]⟩,
   ⟨0x1EE47, ["aARABIC MATHEMATICAL TAILED HAH"]⟩,
   ⟨0x1EE49, ["aARABIC MATHEMATICAL TAILED YEH"]⟩,
   ⟨0x1EE4B, ["aARABIC MATHEMATICAL TAILED LAM"]⟩,
   ⟨0x1EE4D, ["aARABIC MATHEMATICAL TAILED NOONdSEENdAIN"]⟩,
   ⟨0x1EE51, ["aARABIC MATHEMATICAL TAILED SADdQAF"]⟩,
   ⟨0x1EE54, ["aARABIC MATHEMATICAL TAILED SHEEN"]⟩,
   ⟨0x1EE57, ["aARABIC MATHEMATICAL TAILED KHAH"]⟩,
   ⟨0x1EE59, ["aARABIC MATHEMATICAL TAILED DAD"]⟩,
   ⟨0x1EE5B, ["aARABIC MATHEMATICAL TAILED GHAIN"]⟩,
   ⟨0x1EE5D, ["aARABIC MATHEMATICAL TAILED DOTLESS NOON"]⟩,
   ⟨0x1EE5F, ["aARABIC MATHEMATICAL TAILED DOTLESS QAF"]⟩,
   ⟨0x1EE61, ["aARABIC MATHEMATICAL STRETCHED BEHdJEEM"]⟩,
   ⟨0x1EE64, ["aARABIC MATHEMATICAL STRETCHED HEH"]⟩,
   ⟨0x1EE67, ["aARABIC MATHEMATICAL STRETCHED HAHdTAHdYEHdKAF"]⟩,
   ⟨0x1EE6C, ["aARABIC MATHEMATICAL STRETCHED MEEMdNOONdSEENdAINdFEHdSADdQAF"]⟩,
   ⟨0x1EE74, ["aARABIC MATHEMATICAL STRETCHED SHEENdTEHdTHEHdKHAH"]⟩,
   ⟨0x1EE79, ["aARABIC MATHEMATICAL STRETCHED DADdZAHdGHAINdDOTLESS BEH"]⟩,
   ⟨0x1EE7E, ["aARABIC MATHEMATICAL STRETCHED DOTLESS FEH"]⟩,
   ⟨0x1EE80, ["aARABIC MATHEMATICAL LOOPED ALEFdBEHdJEEMdDALdHEHdWAWdZAINdHAHdTAHdYEH"]⟩,
   ⟨0x1EE8B, ["aARABIC MATHEMATICAL LOOPED LAMdMEEMdNOONdSEENdAINdFEHdSADdQAFdREHdSHEENdTEHdTHEH",
     "dKHAHdTHALdDADdZAHdGHAIN"]⟩,
   ⟨0x1EEA1, ["aARABIC MATHEMATICAL DOUBLE-STRUCK BEHeJEEMeDAL"]⟩,
   ⟨0x1EEA5, ["aARABIC MATHEMATICAL DOUBLE-STRUCK WAWeZAINeHAHeTAHeYEH"]⟩,
   ⟨0x1EEAB, ["aARABIC MATHEMATICAL DOUBLE-STRUCK LAMeMEEMeNOONeSEENeAINeFEHeSADeQAFeREHeSHEENeTEH",
     "eTHEHeKHAHeTHALeDADeZAHeGHAIN"]⟩,
   ⟨0x1EEF0, ["aARABIC MATHEMATICAL OPERATOR MEEM WITH HAH WITH TATWEELdHAH WITH DAL"]⟩]

end Pseudoword.Text.CharacterName
