namespace FragmentImports.CharacterName

def fromM : List String :=
  ["aMACRONaMAGEaMAGIC WANDaMAGNETaMAHAJANI ABBREVIATION SIGNbLETTER AcBAcBHAcCAcCHAcDAcDDAcDDHA",
   "cDHAcEcGAcGHAcHAcIcJAcJHAcKAcKHAcLAcMAcNAcNNAcNYAcOcPAcPHAcRAcRRAcSAcTAcTHAcTTAcTTHAcUcVA",
   "bLIGATURE SHRIbSECTION MARKbSIGN NUKTAaMAHJONG TILE AUTUMNcBACKcBAMBOOcCHRYSANTHEMUMcEAST WIND",
   "cEIGHT OF BAMBOOSeCHARACTERSeCIRCLEScFIVE OF BAMBOOSeCHARACTERSeCIRCLEScFOUR OF BAMBOOS",
   "eCHARACTERSeCIRCLEScGREEN DRAGONcJOKERcNINE OF BAMBOOSeCHARACTERSeCIRCLEScNORTH WIND",
   "cONE OF BAMBOOSeCHARACTERSeCIRCLEScORCHIDcPLUMcRED DRAGONcSEVEN OF BAMBOOSeCHARACTERSeCIRCLES",
   "cSIX OF BAMBOOSeCHARACTERSeCIRCLEScSOUTH WINDcSPRINGcSUMMERcTHREE OF BAMBOOSeCHARACTERS",
   "eCIRCLEScTWO OF BAMBOOSeCHARACTERSeCIRCLEScWEST WINDcWHITE DRAGONcWINTERaMAKASAR ANGKA",
   "bEND OF SECTIONbLETTER AcBAcCAcDAcGAcJAcKAcLAcMAcNAcNGAcNYAcPAcRAcSAcTAcVAcYAbPASSIMBANG",
   "bVOWEL SIGN EdIdOdUaMALAYALAM AU LENGTH MARKbDATE MARKbDIGIT EIGHTcFIVEcFOURcNINEcONEcSEVEN",
   "cSIXcTHREEcTWOcZERObFRACTION ONE EIGHTHdFIFTHdFORTIETHdHALFdONE-HUNDRED-AND-SIXTIETHdQUARTER",
   "dSIXTEENTHdTENTHdTWENTIETHcTHREE EIGHTIETHSdQUARTERSdSIXTEENTHSdTWENTIETHSbLETTER AcAAcAI",
   "cARCHAIC IIcAUcBAcBHAcCAcCHAcCHILLU KdLdLLdLLLdMdNdNNdRRdYcDAcDDAcDDHAcDHAcDOT REPHcEcEEcGA",
   "cGHAcHAcIcIIcJAcJHAcKAcKHAcLAcLLAcLLLAcMAcNAcNGAcNNAcNNNAcNYAcOcOOcPAcPHAcRAcRRAcSAcSHAcSSAcTA",
   "cTHAcTTAcTTHAcTTTAcUcUUcVAcVEDIC ANUSVARAcVOCALIC LdLLdRdRRcYAbNUMBER ONE HUNDREDdTHOUSANDcTEN",
   "bSIGN ANUSVARAcAVAGRAHAcCANDRABINDUcCIRCULAR VIRAMAcCOMBINING ANUSVARA ABOVEcPARA",
   "cVERTICAL BAR VIRAMAcVIRAMAcVISARGAbVOWEL SIGN AAdAIdAUdEdEEdIdIIdOdOOdUdUUdVOCALIC LeLLeReRR",
   "aMALE AND FEMALE SIGNbSIGNbWITH STROKE AND MALE AND FEMALE SIGNdSIGNaMALTESE CROSSaMAMMOTHaMAN",
   "bAND WOMAN HOLDING HANDSbDANCINGbIN BUSINESS SUIT LEVITATINGcTUXEDObWITH GUA PI MAOcTURBAN",
   "aMANAT SIGNaMANDAIC AFFRICATION MARKbGEMINATION MARKbLETTER ABcADcAGcAHcAINcAKcAKSAcALcAMcAN",
   "cAPcAQcARcAScASHcASZcATcATTcAZcDUSHENNAcHALQAcINcITcKADcUSHENNAbPUNCTUATIONbVOCALIZATION MARK",
   "aMANGOaMANICHAEAN ABBREVIATION MARK ABOVEdBELOWbLETTER AAYINcALEPHcAYINcBETHcBHETHcDALETH",
   "cDHAMEDHcFEcGHIMELcGIMELcHEcHETHcJAYINcJHAYINcKAPHcKHAPHcLAMEDHcMEMcNUNcPEcQHOPHcQOPHcRESH",
   "cSADHEcSAMEKHcSHINcSSHINcTAWcTETHcTHAMEDHcWAWcXAPHcXOPHcYODHcZAYINcZHAYINbNUMBER FIVEcONE",
   "dHUNDREDcTENcTWENTYbPUNCTUATION DOTdWITHIN DOTcDOUBLE DOT WITHIN DOTcFLEURONcLINE FILLERcSTAR",
   "cTWO DOTSbSIGN UDaMANS SHOEaMANTELPIECE CLOCKaMANUAL WHEELCHAIRaMAP SYMBOL FOR LIGHTHOUSE",
   "aMAPLE LEAFaMARCHEN HEAD MARKbLETTER -AcAcBAcCAcCHAcDAcDZAcGAcHAcJAcKAcKHAcLAcMAcNAcNGAcNYAcPA",
   "cPHAcRAcSAcSHAcTAcTHAcTSAcTSHAcWAcYAcZAcZHAbMARK SHADbSIGN ANUSVARAcCANDRABINDU",
   "bSUBJOINED LETTER AdBAdCAdCHAdDAdDZAdGAdHAdJAdKAdKHAdLAdMAdNAdNGAdNYAdPAdPHAdRAdSAdSHAdTAdTHA",
   "dTSAdTSHAdWAdYAdZAdZHAbVOWEL SIGN AAdEdIdOdUaMARRIAGE SYMBOLaMARTIAL ARTS UNIFORM",
   "aMASARAM GONDI DIGIT EIGHTdFIVEdFOURdNINEdONEdSEVENdSIXdTHREEdTWOdZEROcLETTER AdAAdAIdAUdBA",
   "dBHAdCAdCHAdDAdDDAdDDHAdDHAdEdGAdGHAdHAdIdIIdJAdJHAdJNYAdKAdKHAdKSSAdLAdLLAdMAdNAdNGAdNNAdNYA",
   "dOdPAdPHAdRAdSAdSHAdSSAdTAdTHAdTRAdTTAdTTHAdUdUUdVAdYAcRA-KARAcREPHAcSIGN ANUSVARAdCANDRA",
   "dHALANTAdNUKTAdVISARGAcVIRAMAcVOWEL SIGN AAeAIeAUeEeIeIIeOeUeUUeVOCALIC R",
   "aMASCULINE ORDINAL INDICATORaMASK WORK SYMBOLaMASU MARKaMATE DRINKaMATHEMATICAL BOLD CAPITAL A",
   "dALPHAdBdBETAdCdCHIdDdDELTAdDIGAMMAdEdEPSILONdETAdFdGdGAMMAdHdIdIOTAdJdKdKAPPAdLdLAMDAdMdMUdN",
   "dNUdOdOMEGAdOMICRONdPdPHIdPIdPSIdQdRdRHOdSdSIGMAdTdTAUdTHETAeSYMBOLdUdUPSILONdVdWdXdXIdYdZ",
   "dZETAcDIGIT EIGHTdFIVEdFOURdNINEdONEdSEVENdSIXdTHREEdTWOdZEROcEPSILON SYMBOLcFRAKTUR CAPITAL A",
   "eBeCeDeEeFeGeHeIeJeKeLeMeNeOePeQeReSeTeUeVeWeXeYeZdSMALL AeBeCeDeEeFeGeHeIeJeKeLeMeNeOePeQeReS",
   "eTeUeVeWeXeYeZcITALIC CAPITAL AeALPHAeBeBETAeCeCHIeDeDELTAeEeEPSILONeETAeFeGeGAMMAeHeIeIOTAeJ",
   "eKeKAPPAeLeLAMDAeMeMUeNeNUeOeOMEGAeOMICRONePePHIePIePSIeQeReRHOeSeSIGMAeTeTAUeTHETAfSYMBOLeU",
   "eUPSILONeVeWeXeXIeYeZeZETAdEPSILON SYMBOLdKAPPA SYMBOLdNABLAdPARTIAL DIFFERENTIALdPHI SYMBOL",
   "dPI SYMBOLdRHO SYMBOLdSMALL AeALPHAeBeBETAeCeCHIeDeDELTAeEeEPSILONeETAeFeFINAL SIGMAeGeGAMMAeH",
   "eIeIOTAeJeKeKAPPAeLeLAMDAeMeMUeNeNUeOeOMEGAeOMICRONePePHIePIePSIeQeReRHOeSeSIGMAeTeTAUeTHETAeU",
   "eUPSILONeVeWeXeXIeYeZeZETAdTHETA SYMBOLcKAPPA SYMBOLcNABLAcPARTIAL DIFFERENTIALcPHI SYMBOL",
   "cPI SYMBOLcRHO SYMBOLcSCRIPT CAPITAL AeBeCeDeEeFeGeHeIeJeKeLeMeNeOePeQeReSeTeUeVeWeXeYeZ",
   "dSMALL AeBeCeDeEeFeGeHeIeJeKeLeMeNeOePeQeReSeTeUeVeWeXeYeZcSMALL AdALPHAdBdBETAdCdCHIdDdDELTA",
   "dDIGAMMAdEdEPSILONdETAdFdFINAL SIGMAdGdGAMMAdHdIdIOTAdJdKdKAPPAdLdLAMDAdMdMUdNdNUdOdOMEGA",
   "dOMICRONdPdPHIdPIdPSIdQdRdRHOdSdSIGMAdTdTAUdTHETAdUdUPSILONdVdWdXdXIdYdZdZETAcTHETA SYMBOL",
   "bDOUBLE-STRUCK CAPITAL AdBdDdEdFdGdIdJdKdLdMdOdSdTdUdVdWdXdYcDIGIT EIGHTdFIVEdFOURdNINEdONE",
   "dSEVENdSIXdTHREEdTWOdZEROcSMALL AdBdCdDdEdFdGdHdIdJdKdLdMdNdOdPdQdRdSdTdUdVdWdXdYdZ",
   "bFALLING DIAGONALbFRAKTUR CAPITAL AdBdDdEdFdGdJdKdLdMdNdOdPdQdSdTdUdVdWdXdYcSMALL AdBdCdDdEdF",
   "dGdHdIdJdKdLdMdNdOdPdQdRdSdTdUdVdWdXdYdZbITALIC CAPITAL AdALPHAdBdBETAdCdCHIdDdDELTAdEdEPSILON",
   "dETAdFdGdGAMMAdHdIdIOTAdJdKdKAPPAdLdLAMDAdMdMUdNdNUdOdOMEGAdOMICRONdPdPHIdPIdPSIdQdRdRHOdS",
   "dSIGMAdTdTAUdTHETAeSYMBOLdUdUPSILONdVdWdXdXIdYdZdZETAcEPSILON SYMBOLcKAPPA SYMBOLcNABLA",
   "cPARTIAL DIFFERENTIALcPHI SYMBOLcPI SYMBOLcRHO SYMBOLcSMALL AdALPHAdBdBETAdCdCHIdDdDELTA",
   "dDOTLESS IeJdEdEPSILONdETAdFdFINAL SIGMAdGdGAMMAdIdIOTAdJdKdKAPPAdLdLAMDAdMdMUdNdNUdOdOMEGA",
   "dOMICRONdPdPHIdPIdPSIdQdRdRHOdSdSIGMAdTdTAUdTHETAdUdUPSILONdVdWdXdXIdYdZdZETAcTHETA SYMBOL",
   "bLEFT ANGLE BRACKETcDOUBLE ANGLE BRACKETcFLATTENED PARENTHESIScWHITE SQUARE BRACKET",
   "dTORTOISE SHELL BRACKETbMONOSPACE CAPITAL AdBdCdDdEdFdGdHdIdJdKdLdMdNdOdPdQdRdSdTdUdVdWdXdYdZ",
   "cDIGIT EIGHTdFIVEdFOURdNINEdONEdSEVENdSIXdTHREEdTWOdZEROcSMALL AdBdCdDdEdFdGdHdIdJdKdLdMdNdOdP",
   "dQdRdSdTdUdVdWdXdYdZbRIGHT ANGLE BRACKETcDOUBLE ANGLE BRACKETcFLATTENED PARENTHESIS",
   "cWHITE SQUARE BRACKETdTORTOISE SHELL BRACKETbRISING DIAGONALbSANS-SERIF BOLD CAPITAL AeALPHAeB",
   "eBETAeCeCHIeDeDELTAeEeEPSILONeETAeFeGeGAMMAeHeIeIOTAeJeKeKAPPAeLeLAMDAeMeMUeNeNUeOeOMEGA",
   "eOMICRONePePHIePIePSIeQeReRHOeSeSIGMAeTeTAUeTHETAfSYMBOLeUeUPSILONeVeWeXeXIeYeZeZETA",
   "dDIGIT EIGHTeFIVEeFOUReNINEeONEeSEVENeSIXeTHREEeTWOeZEROdEPSILON SYMBOLdITALIC CAPITAL AfALPHA",
   "fBfBETAfCfCHIfDfDELTAfEfEPSILONfETAfFfGfGAMMAfHfIfIOTAfJfKfKAPPAfLfLAMDAfMfMUfNfNUfOfOMEGA",
   "fOMICRONfPfPHIfPIfPSIfQfRfRHOfSfSIGMAfTfTAUfTHETAgSYMBOLfUfUPSILONfVfWfXfXIfYfZfZETA",
   "eEPSILON SYMBOLeKAPPA SYMBOLeNABLAePARTIAL DIFFERENTIALePHI SYMBOLePI SYMBOLeRHO SYMBOL",
   "eSMALL AfALPHAfBfBETAfCfCHIfDfDELTAfEfEPSILONfETAfFfFINAL SIGMAfGfGAMMAfHfIfIOTAfJfKfKAPPAfL",
   "fLAMDAfMfMUfNfNUfOfOMEGAfOMICRONfPfPHIfPIfPSIfQfRfRHOfSfSIGMAfTfTAUfTHETAfUfUPSILONfVfWfXfXIfY",
   "fZfZETAeTHETA SYMBOLdKAPPA SYMBOLdNABLAdPARTIAL DIFFERENTIALdPHI SYMBOLdPI SYMBOLdRHO SYMBOL",
   "dSMALL AeALPHAeBeBETAeCeCHIeDeDELTAeEeEPSILONeETAeFeFINAL SIGMAeGeGAMMAeHeIeIOTAeJeKeKAPPAeL",
   "eLAMDAeMeMUeNeNUeOeOMEGAeOMICRONePePHIePIePSIeQeReRHOeSeSIGMAeTeTAUeTHETAeUeUPSILONeVeWeXeXIeY",
   "eZeZETAdTHETA SYMBOLcCAPITAL AdBdCdDdEdFdGdHdIdJdKdLdMdNdOdPdQdRdSdTdUdVdWdXdYdZcDIGIT EIGHT",
   "dFIVEdFOURdNINEdONEdSEVENdSIXdTHREEdTWOdZEROcITALIC CAPITAL AeBeCeDeEeFeGeHeIeJeKeLeMeNeOePeQ",
   "eReSeTeUeVeWeXeYeZdSMALL AeBeCeDeEeFeGeHeIeJeKeLeMeNeOePeQeReSeTeUeVeWeXeYeZcSMALL AdBdCdDdEdF",
   "dGdHdIdJdKdLdMdNdOdPdQdRdSdTdUdVdWdXdYdZbSCRIPT CAPITAL AdCdDdGdJdKdNdOdPdQdSdTdUdVdWdXdYdZ",
   "cSMALL AdBdCdDdFdHdIdJdKdLdMdNdPdQdRdSdTdUdVdWdXdYdZaMAXIMIZEaMAYAN NUMERAL EIGHTcEIGHTEEN",
   "cELEVENcFIFTEENcFIVEcFOURcFOURTEENcNINEcNINETEENcONEcSEVENcSEVENTEENcSIXcSIXTEENcTENcTHIRTEEN",
   "cTHREEcTWELVEcTWOcZEROaMEASURED ANGLEcOPENING LEFT",
   "cWITH OPEN ARM ENDING IN ARROW POINTING DOWN AND LEFTlRIGHTjLEFT AND DOWNlUPjRIGHT AND DOWNlUP",
   "jUP AND LEFTlRIGHTbBYbRIGHT ANGLE WITH DOTaMEAT ON BONEaMECHANICAL ARMbLEG",
   "aMEDEFAIDRIN CAPITAL LETTER AdAIdATIUdBdCdDdEdFdGdHdHPdIdJdKdKPdLdMdNdNGdNYdOdOEdPdQdRdSdTdUdV",
   "dWdXdYdYUdZbCOMMAbDIGIT EIGHTcFIVEcFOURcNINEcONEdALTERNATE FORMcSEVENcSIXcTHREEdALTERNATE FORM",
   "cTWOdALTERNATE FORMcZERObEXCLAMATION OHbFULL STOPbNUMBER EIGHTEENcELEVENcFIFTEENcFOURTEEN",
   "cNINETEENcSEVENTEENcSIXTEENcTENcTHIRTEENcTWELVEbSMALL LETTER AdAIdATIUdBdCdDdEdFdGdHdHPdIdJdK",
   "dKPdLdMdNdNGdNYdOdOEdPdQdRdSdTdUdVdWdXdYdYUdZbSYMBOL AIVAaMEDIEVAL COMMAbEXCLAMATION MARK",
   "bQUESTION MARKaMEDIUM BLACK CIRCLEbBOLD WHITE CIRCLEbEIGHT POINTED BLACK STARcSPOKED ASTERISK",
   "bFIVE SPOKED ASTERISKbFLATTENED LEFT PARENTHESIS ORNAMENTcRIGHT PARENTHESIS ORNAMENT",
   "bFOUR POINTED BLACK STARdPINWHEEL STARbGREEK CROSSbLEFT CURLY BRACKET ORNAMENT",
   "cPARENTHESIS ORNAMENTbLEFT-POINTING ANGLE BRACKET ORNAMENTbMATHEMATICAL SPACE",
   "bRIGHT CURLY BRACKET ORNAMENTcPARENTHESIS ORNAMENTbRIGHT-POINTING ANGLE BRACKET ORNAMENT",
   "bSALTIREbSHADEbSIX POINTED BLACK STARcSPOKED ASTERISKbSMALL WHITE CIRCLE",
   "bTHREE POINTED BLACK STARdPINWHEEL STARbVERTICAL BARbWHITE CIRCLEcSQUARE",
   "aMEETEI MAYEK AHANG KHUDAMcANJIcAPUN IYEKcCHEIKHANcCHEIKHEIcDIGIT EIGHTdFIVEdFOURdNINEdONE",
   "dSEVENdSIXdTHREEdTWOdZEROcLETTER ATIYAdBAdBHAMdCHAdCHILdDDAdDDHAdDHOUdDILdEdGHOUdGOKdHUKdI",
   "eLONSUMdJHAMdJILdKHOUdKOKeLONSUMdLAIeLONSUMdMITeLONSUMdNAeLONSUMdNGOUeLONSUMdNNAdNYAdOdPA",
   "eLONSUMdPHAMdRAIdSAMdSHAdSSAdTHOUdTILeLONSUMdTTAdTTHAdUNdWAIdYANGcLUM IYEK",
   "cSYLLABLE REPETITION MARKcVIRAMAcVOWEL SIGN AAIeAAUeANAPeAUeCHEINAPeIIeINAPeNUNGeONAPeSOUNAP",
   "eUNAPeUUeVISARGAeYENAPcWORD REPETITION MARKaMELONaMELTING FACEaMEMO",
   "aMENDE KIKAKUI COMBINING NUMBER HUNDRED THOUSANDSeHUNDREDSeMILLIONSeTEENSeTEN THOUSANDSeTENS",
   "eTHOUSANDScDIGIT EIGHTdFIVEdFOURdNINEdONEdSEVENdSIXdTHREEdTWOcSYLLABLE M001 KIdM002 KAdM003 KU",
   "dM004 WIdM005 WAdM006 WUdM007 MINdM008 MANdM009 MUNdM010 BIdM011 BAdM012 BUdM013 IdM014 A",
   "dM015 UdM016 DIdM017 DAdM018 DUdM019 SIdM020 SAdM021 SUdM022 TIdM023 TAdM024 TUdM025 LI",
   "dM026 LAdM027 LUdM028 JIdM029 JAdM030 JUdM031 YIdM032 YAdM033 YUdM034 FIdM035 FAdM036 FU",
   "dM037 NINdM038 NANdM039 NUNdM040 HEEdM041 HAdM042 HOOdM043 NGGAdM044 KPEEdM045 WOdM046 HUAN",
   "dM047 MBEEdM048 KOdM049 WVAdM050 PUdM051 PEdM052 HENdM053 HINdM054 LOOdM055 TEdM056 GBA",
   "dM057 NGONdM058 NYANdM059 MENdM060 NYONdM061 WVIdM062 MBAdM063 JOdM064 NDOdM065 KEEdM066 PO",
   "dM067 NDOOdM068 PIdM069 TOdM070 GBOdM071 GBOOdM072 MBEdM073 LEdM074 KPUdM075 FEdM076 KOO",
   "dM077 VOdM078 FEEdM079 SOdM080 YEdM081 PEEdM082 NGGUdM083 HEEIdM084 LEEdM085 VEdM086 LONG NGGE",
   "dM087 HUNdM088 FOdM089 DEEdM090 NGGIdM091 TEEdM092 KPAdM093 GBEEdM094 MONdM095 KEdM096 HE",
   "dM097 BEdM098 NYENdM099 PAdM100 EdM101 FANdM102 POOdM103 BOOdM104 TOOdM105 LONG MBOO",
   "dM106 LONG NGGOOdM107 GBEdM108 KPEdM109 YEEdM110 LONG LEdM111 GAdM112 KPOOdM113 JEdM114 WOO",
   "dM115 NGGEEdM116 SEdM117 NENdM118 WEdM119 NDEdM120 NGGOdM121 YOdM122 MBUdM123 NDIdM124 GBI",
   "dM125 NDUdM126 WEEdM127 NGGUAdM128 HOOUdM129 NDAdM130 HANdM131 INdM132 KPIdM133 FOOdM134 NJOO",
   "dM135 INdM136 SOOdM137 EIdM138 BOdM139 WVEdM140 HOdM141 YOOdM142 LONG MBOdM143 WEIdM144 VOO",
   "dM145 MBIdM146 NGGEdM147 OdM148 GBUdM149 NJEEdM150 BEEdM151 VUdM152 NJAdM153 LOdM154 MUAN",
   "dM155 GIdM156 NGGOOdM157 JEEdM158 KPOdM159 NGGAAdM160 JOOdM161 LONG MBEdM162 SEEdM163 EE",
   "dM164 NYINdM165 OOdM166 GUEIdM167 GUANdM168 GUdM169 NONdM170 NYUNdM171 RAdM172 MBOOdM173 VEE",
   "dM174 MBOdM175 LONG JOdM176 HIdM177 NGUANdM178 ENdM179 KUAdM180 DOOdM181 DOdM182 VI",
   "dM183 LONG NGGOdM184 NGENdM185 VAdM186 HUdM187 MBUUdM188 MBEEdM189 MUENdM190 GEEdM191 NDEE",
   "dM192 NJUdM193 HONdM194 WUIdM195 ANdM196 SIAdM197 FUAaMENORAH WITH NINE BRANCHESaMENS SYMBOL",
   "aMERCURYaMEROITIC CURSIVE FRACTION EIGHT TWELFTHSdELEVEN TWELFTHSdFIVE TWELFTHSdFOUR TWELFTHS",
   "dNINE TWELFTHSdONE HALFeTWELFTHdSEVEN TWELFTHSdSIX TWELFTHSdTEN TWELFTHSdTHREE TWELFTHS",
   "dTWO TWELFTHScLETTER AdARCHAIC SAdBAdDAdEdHHAdIdKAdKHAdLAdMAdNAdNEdOdPAdQAdRAdSAdSEdTAdTEdTO",
   "dWAdYAcLOGOGRAM IMNdRMTcNUMBER EIGHTeHUNDREDfTHOUSANDeTHOUSANDdEIGHTY THOUSANDdFIFTYeTHOUSAND",
   "dFIVEeHUNDREDfTHOUSANDeTHOUSANDdFORTYeTHOUSANDdFOUReHUNDREDfTHOUSANDeTHOUSANDdNINEeHUNDRED",
   "fTHOUSANDeTHOUSANDdNINETY THOUSANDdONEeHUNDREDfTHOUSANDeTHOUSANDdSEVENeHUNDREDfTHOUSAND",
   "eTHOUSANDdSEVENTYeTHOUSANDdSIXeHUNDREDfTHOUSANDeTHOUSANDdSIXTYeTHOUSANDdTENeTHOUSANDdTHIRTY",
   "eTHOUSANDdTHREEeHUNDREDfTHOUSANDeTHOUSANDdTWENTYeTHOUSANDdTWOeHUNDREDfTHOUSANDeTHOUSAND",
   "bHIEROGLYPHIC LETTER AdBAdBA-2dDAdEdHHAdIdKAdKHAdLAdMAdNAdNA-2dNEdNE-2dOdPAdQAdRAdRA-2dSAdSA-2",
   "dSEdTAdTA-2dTEdTE-2dTOdWAdYAcSYMBOL VIDJdVIDJ-2aMERPERSONaMESSAGE WAITINGaMETRICAL BREVE",
   "bLONG OVER SHORTdTWO SHORTSbPENTASEMEbSHORT OVER LONGbTETRASEMEbTRISEMEbTWO SHORTS JOINED",
   "dOVER LONGaMETROaMIAO LETTER AHcARCHAIC MAdNAdNGAdZZAcBAcBRIcDAcDDAcDLHAcDLHYAcDZAcDZHAcDZYI",
   "cDZZAcFAcGAcGHAcGHHAcHAcHHAcKAcLAcLHAcLHYAcLYAcMAcMHAcNAcNASALIZATIONcNGAcNGHAcNHAcNNAcNNHA",
   "cNYAcNYHAcPAcPLAcQAcQGAcREFORMED TONE-1dTONE-2dTONE-4dTONE-5dTONE-6dTONE-8dTSHAcRTEcSAcSHAcSSA",
   "cSYIcTAcTEcTLHAcTLHYAcTONE-2cTONE-3cTONE-4cTONE-5cTONE-6cTONE-7cTONE-8cTSAcTSEcTSHAcTSSAcTTA",
   "cVAcVFAcWAcXAcYI DZHAdKAdNNAdPAdTAdTSAdTSHAdTTAcZAcZHAcZSAcZSHAcZZAcZZSAcZZSYAcZZYA",
   "bSIGN ASPIRATIONcCONSONANT MODIFIER BARcREFORMED ASPIRATIONdVOICINGbTONE ABOVEcBELOWcRIGHT",
   "cTOP RIGHTbVOWEL SIGN AdAAdAEdAEEdAHHdAIdANdANGdAUdEdEAdEIdENdENGdERdERRdIdIAdIANdIANGdIEdIG",
   "dIIdINGdIOdIONGdIUdNdNGdOdOERdOEYdOGdOOdOUdROUNDED EReERRdUdUAdUANdUANGdUEIdUIdUNGdUOGdUUdVWdW",
   "dWOdYdYIdYUIaMICR DASH SYMBOLbON US SYMBOLaMICRO SIGNaMICROBEaMICROPHONEaMICROSCOPEaMIDDLE DOT",
   "bTHIRD WHITE RIGHT POINTING INDEXaMIDLINE HORIZONTAL ELLIPSISaMILITARY HELMETbMEDALaMILKY WAY",
   "aMILL SIGNaMINIBUSaMINIDISCaMINIMIZEaMINUS SIGNcIN TRIANGLEcWITH COMMA ABOVEdDOT BELOW",
   "dFALLING DOTSdRISING DOTSbTILDEaMINUS-OR-PLUS SIGNaMINYaMIRRORbBALLaMMSPaMOBILE PHONEcOFF",
   "cWITH RIGHTWARDS ARROW AT LEFTaMODELSaMODERN PENTATHLONaMODI ABBREVIATION SIGNbDANDA",
   "bDIGIT EIGHTcFIVEcFOURcNINEcONEcSEVENcSIXcTHREEcTWOcZERObDOUBLE DANDAbLETTER AcAAcAIcAUcBAcBHA",
   "cCAcCHAcDAcDDAcDDHAcDHAcEcGAcGHAcHAcIcIIcJAcJHAcKAcKHAcLAcLLAcMAcNAcNGAcNNAcNYAcOcPAcPHAcRAcSA",
   "cSHAcSSAcTAcTHAcTTAcTTHAcUcUUcVAcVOCALIC LdLLdRdRRcYAbSIGN ANUSVARAcARDHACANDRAcHUVAcVIRAMA",
   "cVISARGAbVOWEL SIGN AAdAIdAUdEdIdIIdOdUdUUdVOCALIC LeLLeReRR",
   "aMODIFIER BREVE WITH INVERTED BREVEbLETTER ACUTE ACCENTcALVEOLAR CLICKcAPOSTROPHE",
   "cBEGIN HIGH TONEdLOW TONEcBILABIAL CLICKcCAPITAL AdAEdBdBARRED BdCdDdEdFdGdHeWITH STROKEdIdJdK",
   "dLdMdNdOdOUdPdQdRdREVERSED EeNdTdUdVdWcCENTRED LEFT HALF RINGdRIGHT HALF RING",
   "cCHINESE TONE YANG PINGfQUfRUfSHANGeYIN PINGfQUfRUfSHANGcCIRCUMFLEX ACCENTcCOLONcCROSS ACCENT",
   "cCYRILLIC ENdHARD SIGNdSOFT SIGNcDENTAL CLICKcDOT HORIZONTAL BARdSLASHdVERTICAL BAR",
   "cDOUBLE APOSTROPHEdPRIMEcDOWN ARROWHEADdTACKcEND HIGH TONEdLOW TONE",
   "cEXTRA-HIGH DOTTED LEFT-STEM TONE BAReTONE BARdLEFT-STEM TONE BARdTONE BAR",
   "cEXTRA-LOW DOTTED LEFT-STEM TONE BAReTONE BARdLEFT-STEM TONE BARdTONE BARcGEORGIAN NAR",
   "cGLOTTAL STOPeWITH STROKEcGRAVE ACCENTcHALF TRIANGULAR COLONcHIGH DOTTED LEFT-STEM TONE BAR",
   "eTONE BARdLEFT-STEM TONE BARdTONE BARcLATERAL CLICKcLEFT ARROWHEADdHALF RINGdTACK",
   "cLOW ACUTE ACCENTdCIRCUMFLEX ACCENTdDOTTED LEFT-STEM TONE BAReTONE BARdDOWN ARROWHEAD",
   "dGRAVE ACCENTdINVERTED EXCLAMATION MARKdLEFT ARROWeARROWHEADdLEFT-STEM TONE BARdMACRON",
   "dRIGHT ARROWHEADdRINGdTILDEdTONE BARdUP ARROWHEADdVERTICAL LINEcLOWER RIGHT CORNER ANGLE",
   "cMACRONcMID DOTTED LEFT-STEM TONE BAReTONE BARdLEFT-STEM TONE BARdTONE BAR",
   "cMIDDLE DOUBLE ACUTE ACCENTeGRAVE ACCENTdGRAVE ACCENTcMINUS SIGNcOPEN SHELFcPLUS SIGNcPRIME",
   "cRAISED COLONdDOWN ARROWdEXCLAMATION MARKdINVERTED EXCLAMATION MARKdUP ARROW",
   "cRETROFLEX CLICK WITH RETROFLEX HOOKcREVERSED COMMAdGLOTTAL STOPfWITH STROKEcRHOTIC HOOK",
   "cRIGHT ARROWHEADdHALF RINGdTACKcSHELFcSHORT EQUALS SIGNcSMALL AdAEdAINdALPHAdBeWITH HOOK",
   "dBARRED OdBETAdBOTTOM HALF OdCeWITH CURLdCAPITAL AAeBeGfWITH HOOKeHeIfWITH STROKEeINVERTED ReL",
   "fWITH BELTeNeOEeReUeYdCHIdCLOSED OMEGAeREVERSED OPEN EdDeWITH HOOKgAND TAILfTAILdDELTA",
   "dDEZH DIGRAPHdDOTLESS J WITH STROKEhAND HOOKdDZ DIGRAPHfWITH CURLgRETROFLEX HOOKdEdENGdESHdETH",
   "dEZHdFdFENG DIGRAPHdGeWITH HOOKdGAMMAdGREEK GAMMAePHIdHeWITH HOOKfSTROKEdHENGeWITH HOOK",
   "dI WITH STROKEdIOTAdJeWITH CROSSED-TAILdKdLeWITH BELTfINVERTED LAZY SfMIDDLE TILDE",
   "fPALATAL HOOKfRETROFLEX HOOKhAND BELTdLEZHeWITH RETROFLEX HOOKdLIGATURE OEdLS DIGRAPH",
   "dLZ DIGRAPHdMeWITH HOOKdN WITH LEFT HOOKfRETROFLEX HOOKdOeWITH STROKEdOPEN EeOdPdPHIdQdR",
   "eWITH FISHHOOKfTAILdRAMS HORNdREVERSED EeGLOTTAL STOPeOPEN EdSeWITH CURLfHOOKdSCHWAdSCRIPT G",
   "dSIDEWAYS UdTeWITH PALATAL HOOKfRETROFLEX HOOKdTC DIGRAPH WITH CURLdTESH DIGRAPHdTHETA",
   "dTOP HALF OdTS DIGRAPHfWITH RETROFLEX HOOKdTURNED AeAEeALPHAeHeIeMfWITH LONG LEGeOPEN EeR",
   "fWITH HOOKgLONG LEGiAND RETROFLEX HOOKeVeWeYfWITH BELTdUeBAReWITH LEFT HOOKdUPSILONdV",
   "eWITH HOOKfRIGHT HOOKdWdXdYdZeWITH CURLfRETROFLEX HOOKcSTRESS AND HIGH TONEeLOW TONE",
   "cSUPERSCRIPT HALF TRIANGULAR COLONdTRIANGULAR COLONcTRIANGULAR COLONcTURNED COMMAcUNASPIRATED",
   "cUP ARROWHEADdTACKcUScVERTICAL LINEcVOICINGcYANG DEPARTING TONE MARKcYIN DEPARTING TONE MARK",
   "aMODULO TWO SUMaMONEY BAGbWITH WINGSaMONEY-MOUTH FACEaMONGOLIAN BIRGAcWITH DOUBLE ORNAMENT",
   "dORNAMENTbCOLONbCOMMAbDIGIT EIGHTcFIVEcFOURcNINEcONEcSEVENcSIXcTHREEcTWOcZERO",
   "bDOUBLE BIRGA WITH ORNAMENTbELLIPSISbFOUR DOTSbFREE VARIATION SELECTOR FOUReONEeTHREEeTWO",
   "bFULL STOPbINVERTED BIRGAdWITH DOUBLE ORNAMENTbLETTER AcALI GALI AeAHeANUSVARA ONEeBALUDAeCA",
   "eDAeDAGALGAeDAMARUeDDAeHALF UfYAeIeINVERTED UBADAMAeKAeNGAeNNAePAePHAeSSAeTAeTHREE BALUDAeTTA",
   "eTTHAeUBADAMAeVISARGA ONEeZAeZHAcANGcBAcCHAdWITH TWO DOTScCHIcDAcEcEEcFAcGAcHAAcIcJAcKAcKHAcLA",
   "cLHAcMAcMANCHU ALI GALI BHAfCAfCYAfDDHAfDHAfGHAfJHAfLHAfNGAfSSAfTAfTTAfZAfZHAdFAdIdKAdRAdZHA",
   "cNAcOcOEcPAcQAcRAcSAcSHAcSIBE ANGdCHAdDAdEdFAdGAdGAAdHAdHAAdIdIYdJAdKAdPAdRAAdSHAdTAdTSAdUdUE",
   "dZAdZHAcTAcTODO ALI GALI TAfZHAdANGdBAdCHAdDAdDZAdEdGAdGAAdHAAdIdJAdJIAdKAdLONG VOWEL SIGNdMA",
   "dNIAdOdOEdPAdQAdTAdTSAdUdUEdWAdYAcTSAcUcUEcWAcYAcZAcZHIcZRAbMANCHU COMMAcFULL STOPbNIRUGU",
   "bROTATED BIRGAdWITH DOUBLE ORNAMENTeORNAMENTbSIBE SYLLABLE BOUNDARY MARKERbSWIRL BIRGA",
   "dWITH DOUBLE ORNAMENTeORNAMENTbTODO SOFT HYPHENbTRIPLE BIRGA WITH ORNAMENT",
   "bTURNED SWIRL BIRGA WITH DOUBLE ORNAMENTbVOWEL SEPARATORaMONKEYbFACEaMONOGRAM FOR EARTHcYANG",
   "cYINaMONORAILaMONOSTABLE SYMBOLaMOOD BUBBLEaMOON CAKEbVIEWING CEREMONYaMOSQUEaMOSQUITO",
   "aMOTHER CHRISTMASaMOTOR BOATbSCOOTERaMOTORIZED WHEELCHAIRaMOTORWAYaMOUNT FUJIaMOUNTAIN",
   "bBICYCLISTbCABLEWAYbRAILWAYaMOUSEbFACEbTRAPaMOUTHaMOVIE CAMERAaMOYAIaMRO DANDAbDIGIT EIGHT",
   "cFIVEcFOURcNINEcONEcSEVENcSIXcTHREEcTWOcZERObDOUBLE DANDAbLETTER AcBAcCHUcDAcDAIcEcEAcHAIcHAO",
   "cKEAAEcKHAIcKOcLAcLANcMAEMcMIMcNGIcNINcOcOLcOOcPAcPHIcRIcROcSHIcTAcTEKcTHEAcWAcYO",
   "aMUCH GREATER-THANbLESS-THANaMULTANI LETTER AcBAcBHAcCAcCHAcDAcDDAcDDDAcDDHAcDHAcEcGAcGHAcHAcI",
   "cJAcJJAcKAcKHAcLAcMAcNAcNNAcNYAcPAcPHAcRAcRHAcRRAcSAcTAcTHAcTTAcTTHAcUcVAcYAbSECTION MARK",
   "aMULTIMAPaMULTIPLE MUSICAL NOTESaMULTIPLICATION SIGNcIN DOUBLE CIRCLEdLEFT HALF CIRCLE",
   "dRIGHT HALF CIRCLEdTRIANGLEcWITH DOT ABOVEdUNDERBARbXaMULTISETbMULTIPLICATIONbUNIONaMUSHROOM",
   "aMUSIC FLAT SIGNbNATURAL SIGNbSHARP SIGNaMUSICAL KEYBOARDcWITH JACKSbNOTEbSCORE",
   "bSYMBOL ARPEGGIATO DOWNdUPcBEGIN BEAMdPHRASEdSLURdTIEcBRACEcBRACKETcBREATH MARKcBREVEcBREVIS",
   "dRESTcC CLEFcCAESURAcCIRCLE X NOTEHEADcCLIMACUScCLIVIScCLUSTER NOTEHEAD BLACKeWHITEcCODA",
   "cCOMBINING ACCENTdACCENT-STACCATOdAUGMENTATION DOTdBENDdDOITdDOUBLE TONGUEdDOWN BOWdFLAG-1",
   "dFLAG-2dFLAG-3dFLAG-4dFLAG-5dFLIPdHARMONICdLOUREdMARCATOdMARCATO-STACCATOdRIPdSMEAR",
   "dSNAP PIZZICATOdSPRECHGESANG STEMdSTACCATISSIMOdSTACCATOdSTEMdTENUTOdTREMOLO-1dTREMOLO-2",
   "dTREMOLO-3dTRIPLE TONGUEdUP BOWcCOMMON TIMEcCRESCENDOcCROIXcCUT TIMEcDA CAPOcDAL SEGNOcDAMP",
   "dALLcDASHED BARLINEcDECRESCENDOcDEGREE SLASHcDOUBLE BARLINEdFLATdSHARPcDRUM CLEF-1dCLEF-2",
   "cEIGHTH NOTEdRESTcEND BEAMdOF STIMMEdPHRASEdSLURdTIEcF CLEFeOTTAVA ALTAfBASSAcFERMATAdBELOW",
   "cFINAL BARLINEcFINGERED TREMOLO-1dTREMOLO-2dTREMOLO-3cFIVE-LINE STAFFcFLAT DOWNdUPcFORTE",
   "cFOUR-LINE STAFFcFOUR-STRING FRETBOARDcFUSA BLACKdWHITEcG CLEFeOTTAVA ALTAfBASSA",
   "cGLISSANDO DOWNdUPcGRACE NOTE NO SLASHeSLASHcGREGORIAN C CLEFdF CLEFcHALF NOTEdPEDAL MARKdREST",
   "cHAUPTSTIMMEcINVERTED TURNcKIEVAN C CLEFdEIGHTH NOTE STEM DOWNgUPdEND OF PIECEdFINAL NOTE",
   "dFLAT SIGNdHALF NOTEdQUARTER NOTE STEM DOWNgUPdRECITATIVE MARKdWHOLE NOTEcKORON",
   "cLEFT REPEAT SIGNcLONGAdIMPERFECTA RESTdPERFECTA RESTcMAXIMAcMEZZOcMINIMAdBLACKdREST",
   "cMOON NOTEHEAD BLACKeWHITEcMULTI RESTcMULTIPLE MEASURE RESTcNATURAL DOWNdUPcNEBENSTIMME",
   "cNOTEHEAD BLACKcNULL NOTEHEADcONE HUNDRED TWENTY-EIGHTH NOTEfRESTcONE-LINE STAFF",
   "cORNAMENT STROKE-1dSTROKE-10dSTROKE-11dSTROKE-2dSTROKE-3dSTROKE-4dSTROKE-5dSTROKE-6dSTROKE-7",
   "dSTROKE-8dSTROKE-9cOTTAVA ALTAdBASSAcPARENTHESIS NOTEHEADcPEDAL MARKdUP MARKcPES SUBPUNCTIS",
   "cPIANOcPLUS NOTEHEADcPODATUScPORRECTUSdFLEXUScQUARTER NOTEdRESTdTONE FLATeSHARP",
   "cQUINDICESIMA ALTAdBASSAcREPEAT DOTScREPEATED FIGURE-1dFIGURE-2dFIGURE-3cREVERSE FINAL BARLINE",
   "cRIGHT REPEAT SIGNcRINFORZANDOcSCANDICUSdFLEXUScSEGNOcSEMIBREVIS BLACKdRESTdWHITE",
   "cSEMIMINIMA BLACKdRESTdWHITEcSHARP DOWNdUPcSHORT BARLINEcSINGLE BARLINEcSIX-LINE STAFF",
   "cSIX-STRING FRETBOARDcSIXTEENTH NOTEdRESTcSIXTY-FOURTH NOTEdRESTcSORIcSQUARE BdNOTEHEAD BLACK",
   "eWHITEcSUBITOcTEMPUS IMPERFECTUM CUM PROLATIONE IMPERFECTAhDIMINUTION-1hDIMINUTION-2",
   "hDIMINUTION-3gPERFECTAdPERFECTUM CUM PROLATIONE IMPERFECTAgPERFECTAhDIMINUTION-1",
   "cTHIRTY-SECOND NOTEdRESTcTHREE-LINE STAFFcTORCULUSdRESUPINUScTRcTRIANGLE NOTEHEAD DOWN BLACK",
   "fWHITEeLEFT BLACKfWHITEeRIGHT BLACKfWHITEeUP BLACKfRIGHT BLACKgWHITEfWHITE",
   "cTRIANGLE-ROUND NOTEHEAD DOWN BLACKfWHITEcTURNdSLASHdUPcTWO-LINE STAFFcVIRGAcVOID NOTEHEAD",
   "cWHOLE NOTEdRESTcWITH FINGERNAILScX NOTEHEADcZaMVSaMWaMYANMAR CONSONANT SIGN MEDIAL HAeRAeWA",
   "eYAdMON MEDIAL LAfMAfNAdSHAN MEDIAL WAbDIGIT EIGHTcFIVEcFOURcNINEcONEcSEVENcSIXcTHREEcTWOcZERO",
   "bLETTER AcAITON RAcAUcBAcBHAcCAcCHAcDAcDDAcDDHAcDHAcEcEASTERN PWO KAREN GHWAfNNAfYWAcGAcGHA",
   "cGREAT SAcHAcIcIIcJAcJHAcKAcKHAcKHAMTI CAdCHAdDDAdDDHAdDHAdFAdGAdHAdHHAdJAdJHAdLLAdNAdNYAdRA",
   "dSAdTTAdTTHAdXAdZAcLAcLLAcMAcMON BBAdBBEdEdJHAdNGAcNAcNGAcNNAcNNYAcNYAcOcPAcPHAcRA",
   "cRUMAI PALAUNG FAcSAcSGAW KAREN SHAcSHAcSHAN AdBAdBHAdCAdCHAdDAdFAdGAdGHAdHAdJHAdKAdKHAdNAdNNA",
   "dNYAdPHAdTHAdZAcSHWE PALAUNG CHAeSHAcSSAcTAcTAI LAING BAeBHAeDAeDDAeDDHAeDHAeFAeGAeGHAeJAeJHA",
   "eLLAeNNAeNYAcTHAcTTAcTTHAcUcUUcVOCALIC LdLLdRdRRcWAcWESTERN PWO KAREN PWAfTHAcYA",
   "bLOGOGRAM KHAMTI HMdOAYdQNbMODIFIER LETTER KHAMTI REDUPLICATIONdSHAN REDUPLICATION",
   "bSHAN DIGIT EIGHTdFIVEdFOURdNINEdONEdSEVENdSIXdTHREEdTWOdZERObSIGN ANUSVARAcASATcDOT BELOW",
   "cKHAMTI TONE-1dTONE-3cLITTLE SECTIONcPAO KAREN TONEcRUMAI PALAUNG TONE-5cSECTION",
   "cSHAN COUNCIL EMPHATIC TONEeTONE-2eTONE-3dSAWdTONE-2dTONE-3dTONE-5dTONE-6cTAI LAING TONE-2",
   "eTONE-5cVIRAMAcVISARGAcWESTERN PWO KAREN TONE-1fTONE-2fTONE-3fTONE-4fTONE-5",
   "bSYMBOL AFOREMENTIONEDcAITON EXCLAMATIONdONEdTWOcCOMPLETEDcGENITIVEcLOCATIVEcSHAN EXCLAMATION",
   "dONEbTAI LAING DIGIT EIGHTeFIVEeFOUReNINEeONEeSEVENeSIXeTHREEeTWOeZERO",
   "bTONE MARK SGAW KAREN HATHIfKE PHObVOWEL SIGN AAdAIdAITON AeAIdEeABOVEdGEBA KAREN IdIdII",
   "dKAYAH EEeOEeUdMON IIeOdSGAW KAREN EUdSHAN AAeEfABOVEeFINAL YdTALL AAdUdUUdVOCALIC LeLLeReRR",
   "dWESTERN PWO KAREN EUgUE"]

end FragmentImports.CharacterName
