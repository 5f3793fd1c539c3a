namespace FragmentImports.CharacterName

def fromNToR : List String :=
  ["aN-ARY CIRCLED DOT OPERATORcPLUS OPERATORcTIMES OPERATORbCOPRODUCTbINTERSECTIONbLOGICAL ANDcOR",
   "bPRODUCTbSQUARE INTERSECTION OPERATORcUNION OPERATORbSUMMATIONbTIMES OPERATORbUNION",
   "cOPERATOR WITH DOTePLUSbWHITE VERTICAL BARaNABATAEAN CRUCIFORM NUMBER FOURbLETTER ALEPHcAYIN",
   "cBETHcDALETHcFINAL ALEPHdBETHdHEdKAPHdLAMEDHdMEMdNUNdSHINdYODHcGIMELcHEcHETHcKAPHcLAMEDHcMEM",
   "cNUNcPEcQOPHcRESHcSADHEcSAMEKHcSHINcTAWcTETHcWAWcYODHcZAYINbNUMBER FIVEcFOURcONEdHUNDREDcTEN",
   "cTHREEcTWENTYcTWOaNABLAaNAIL POLISHaNAIRA SIGNaNAKaNAME BADGEaNANDaNANDINAGARI HEADSTROKE",
   "bLETTER AcAAcAIcAUcBAcBHAcCAcCHAcDAcDDAcDDHAcDHAcEcGAcGHAcHAcIcIIcJAcJHAcKAcKHAcLAcLLAcMAcNA",
   "cNGAcNNAcNYAcOcPAcPHAcRAcRRAcSAcSHAcSSAcTAcTHAcTTAcTTHAcUcUUcVAcVOCALIC RdRRcYAbSIGN ANUSVARA",
   "cAVAGRAHAcSIDDHAMcVIRAMAcVISARGAbVOWEL SIGN AAdAIdAUdEdIdIIdOdPRISHTHAMATRA EdUdUUdVOCALIC R",
   "eRRaNARROW NO-BREAK SPACEaNATIONAL DIGIT SHAPESbPARKaNAUSEATED FACEaNAZAR AMULETaNBHaNBSP",
   "aNECKTIEaNEGATED DOUBLE VERTICAL BAR DOUBLE RIGHT TURNSTILEaNEGATIVE ACKNOWLEDGE",
   "bCIRCLED DIGIT ZEROcLATIN CAPITAL LETTER AfBfCfDfEfFfGfHfIfJfKfLfMfNfOfPfQfRfSfTfUfVfWfXfYfZ",
   "cNUMBER EIGHTEENdELEVENdFIFTEENdFOURTEENdNINETEENdSEVENTEENdSIXTEENdTHIRTEENdTWELVEdTWENTY",
   "cSQUAREcTRIANGLEbDIAGONAL CROSScDIAMONDcMIDDLE RIGHT TO LOWER CENTREbSQUARED ABcCROSS MARKcIC",
   "cLATIN CAPITAL LETTER AfBfCfDfEfFfGfHfIfJfKfLfMfNfOfPfQfRfSfTfUfVfWfXfYfZcPAcQUESTION MARKcSA",
   "cWCaNEITHER A SUBSET OF NOR EQUAL TOcSUPERSET OF NOR EQUAL TO",
   "bAPPROXIMATELY NOR ACTUALLY EQUAL TObGREATER-THAN NOR EQUAL TOdEQUIVALENT TOdLESS-THAN",
   "bLESS-THAN NOR EQUAL TOdEQUIVALENT TOdGREATER-THANaNELaNEPTUNEbFORM TWOaNERD FACEaNESSUS",
   "aNEST WITH EGGSaNESTING DOLLSaNEUTERaNEUTRAL CHESS BISHOPdROTATED NINETY DEGREES",
   "eTWO HUNDRED SEVENTY DEGREEScEQUIHOPPERdROTATED NINETY DEGREEScKINGdROTATED NINETY DEGREES",
   "eTWO HUNDRED SEVENTY DEGREEScKNIGHTdROTATED FORTY-FIVE DEGREESeNINETY DEGREES",
   "eONE HUNDRED THIRTY-FIVE DEGREESeTHREE HUNDRED FIFTEEN DEGREESeTWO HUNDRED SEVENTY DEGREES",
   "gTWENTY-FIVE DEGREEScPAWNdROTATED NINETY DEGREESeTWO HUNDRED SEVENTY DEGREEScQUEEN",
   "dROTATED NINETY DEGREESeTWO HUNDRED SEVENTY DEGREEScROOKdROTATED NINETY DEGREES",
   "eTWO HUNDRED SEVENTY DEGREEScTURNED BISHOPdKINGdKNIGHTdPAWNdQUEENdROOKbFACEaNEW LINE",
   "bMOON SYMBOLcWITH FACEbSHEQEL SIGNbTAI LUE DIGIT EIGHTeFIVEeFOUReNINEeONEeSEVENeSIXeTHREEeTWO",
   "eZEROdLETTER FINAL BfDfKfMfNfNGfVeHIGH BAfDAfFAfHAfKAfKVAfLAfMAfNAfNGAfPAfPHAfQAfSAfSUAfTAfTHA",
   "fTSAfVAfXAfXVAfYAeLOW BAfDAfFAfHAfKAfKVAfLAfMAfNAfNGAfPAfPHAfQAfSAfSUAfTAfTHAfTSAfVAfXAfXVAfYA",
   "dSIGN LAEeLAEVdTHAM DIGIT ONEdTONE MARK-1eMARK-2dVOWEL SIGN AAfAAYfAEfAYfEfIIfIYfOfOAfOAYfOYfU",
   "fUEfUEYfUUfUYfVOWEL SHORTENERaNEWA ABBREVIATION SIGNbCOMMAbDANDAbDIGIT EIGHTcFIVEcFOURcNINE",
   "cONEcSEVENcSIXcTHREEcTWOcZERObDOUBLE COMMAcDANDAbGAP FILLERbINSERTION SIGNbLETTER AcAAcAIcAU",
   "cBAcBHAcCAcCHAcDAcDDAcDDHAcDHAcEcGAcGHAcHAcIcIIcJAcJHAcKAcKHAcLAcLHAcMAcMHAcNAcNGAcNGHAcNHA",
   "cNNAcNYAcNYHAcOcPAcPHAcRAcRHAcSAcSHAcSSAcTAcTHAcTTAcTTHAcUcUUcVEDIC ANUSVARAcVOCALIC LdLLdRdRR",
   "cWAcYAbOMbPLACEHOLDER MARKbSANDHI MARKbSIDDHIbSIGN ANUSVARAcAVAGRAHAcCANDRABINDU",
   "cFINAL ANUSVARAcJIHVAMULIYAcNUKTAcUPADHMANIYAcVIRAMAcVISARGAbVOWEL SIGN AAdAIdAUdEdIdIIdOdUdUU",
   "dVOCALIC LeLLeReRRaNEWLINE LEFTbRIGHTaNEWSPAPERaNEXT LINEbPAGEaNIGHT WITH STARSaNINJA",
   "aNKO COMBINING DOUBLE DOT ABOVEcLONG DESCENDING TONEdHIGH TONEdLOW TONEdRISING TONE",
   "cNASALIZATION MARKcSHORT HIGH TONEdLOW TONEdRISING TONEbCOMMAbDANTAYALANbDIGIT EIGHTcFIVEcFOUR",
   "cNINEcONEcSEVENcSIXcTHREEcTWOcZERObDOROME SIGNbEXCLAMATION MARKbHIGH TONE APOSTROPHE",
   "bLAJANYALANbLETTER AcBAcCHAcDAcDAGBASINNAcEcEEcFAcGBAcHAcIcJAcJONA CHAdJAdRAcKAcLAcMAcNcNA",
   "dWOLOSOcNYAdWOLOSOcOcOOcPAcRAcRRAcSAcTAcUcWAcYAbLOW TONE APOSTROPHEbSYMBOL GBAKURUNEN",
   "cOO DENNENbTAMAN SIGNaNLaNNBSPaNO BICYCLESbBREAK HEREbENTRYcSIGNbMOBILE PHONES",
   "bONE UNDER EIGHTEEN SYMBOLbPEDESTRIANSbPIRACYbSMOKING SYMBOLaNO-BREAK SPACE",
   "aNOMINAL DIGIT SHAPESaNOMISMA SIGNaNON-BREAKING HYPHENaNON-POTABLE WATER SYMBOLaNONFORKINGaNOR",
   "aNORDIC MARK SIGNaNORMAL SUBGROUP OFdOR EQUAL TOaNORTH EAST AND SOUTH WEST ARROWcARROW",
   "dAND SOUTH EAST ARROWdCROSSING NORTH WEST ARROWeSOUTH EAST ARROWdWITH HOOKcBLACK ARROW",
   "cDOUBLE ARROWcPOINTING BUDdLEAFdVINE LEAFcSANS-SERIF ARROWcTRIANGLE-HEADED ARROWeTO BAR",
   "cWHITE ARROWbINDIC FRACTION ONE EIGHTHeHALFeQUARTEReSIXTEENTHdTHREE QUARTERSeSIXTEENTHS",
   "cPLACEHOLDER MARKcQUANTITY MARKcQUARTER MARKcRUPEE MARKbWEST AND SOUTH EAST ARROWcARROW",
   "dAND NORTH EAST ARROWdCROSSING NORTH EAST ARROWdTO CORNEReLONG BARdWITH HOOKcBLACK ARROW",
   "cDOUBLE ARROWcPOINTING BUDdLEAFdVINE LEAFcSANS-SERIF ARROWcTRIANGLE-HEADED ARROWeTO BAR",
   "cWHITE ARROWaNORTHEAST-POINTING AIRPLANEaNOSEaNOT A SUBSET OFcSUPERSET OFbALMOST EQUAL TO",
   "bAN ELEMENT OFbASYMPTOTICALLY EQUAL TObCHECK MARKbEQUAL TObEQUIVALENT TObGREATER-THAN",
   "bIDENTICAL TObLESS-THANbNORMAL SUBGROUP OFeOR EQUAL TObPARALLEL TObSIGN",
   "bSQUARE IMAGE OF OR EQUAL TOcORIGINAL OF OR EQUAL TObTILDEbTRUE",
   "aNOTCHED LEFT SEMICIRCLE WITH THREE DOTSbLOWER RIGHT-SHADOWED WHITE RIGHTWARDS ARROW",
   "bRIGHT SEMICIRCLE WITH THREE DOTSbUPPER RIGHT-SHADOWED WHITE RIGHTWARDS ARROWaNOTEbPADbPAGE",
   "aNOTEBOOKbWITH DECORATIVE COVERaNULaNULLaNUMBER EIGHTEEN FULL STOPbELEVEN FULL STOP",
   "bFIFTEEN FULL STOPbFOURTEEN FULL STOPbNINETEEN FULL STOPbSEVENTEEN FULL STOPbSIGN",
   "bSIXTEEN FULL STOPbTEN FULL STOPbTHIRTEEN FULL STOPbTWELVE FULL STOPbTWENTY FULL STOP",
   "aNUMERO SIGNaNUSHU ITERATION MARKaNUT AND BOLTaNYIAKENG PUACHUE HMONG CIRCLED CAdDIGIT EIGHT",
   "eFIVEeFOUReNINEeONEeSEVENeSIXeTHREEeTWOeZEROdLETTER AeAAeCAeDAeDLAeEeEEeFAeGAeHAeHAHeIeKAeLA",
   "eMAeMLAeNAeNCAeNKAeNPAeNPLAeNQAeNRAeNTAeNTSAeNTXAeNYAeOeOOePAePLAeQAeRAeRRAeSAeTAeTSAeTXAeUeVA",
   "eWeXAeXYAeYAeZAdLOGOGRAM NYAJdSIGN FOR ANIMALfINVERTEBRATEfLOCATIONfPERSONfTHINGeXW XW",
   "dSYLLABLE LENGTHENERdTONE-BdTONE-DdTONE-GdTONE-JdTONE-MdTONE-SdTONE-V",
   "aOBJECT REPLACEMENT CHARACTERaOBLIQUE ANGLE OPENING DOWNdUPbHYPHENaOBSERVER EYE SYMBOL",
   "aOCR AMOUNT OF CHECKbBELT BUCKLEbBOW TIEbBRANCH BANK IDENTIFICATIONbCHAIR",
   "bCUSTOMER ACCOUNT NUMBERbDASHbDOUBLE BACKSLASHbFORKbHOOKbINVERTED FORKaOCTAGONAL SIGNaOCTOPUS",
   "aODENaOFFICE BUILDINGaOGHAM FEATHER MARKbLETTER AILMcBEITHcCEIRTcCOLLcDAIRcEABHADHcEADHADH",
   "cEAMHANCHOLLcFEARNcGORTcIFINcIODHADHcLUIScMUINcNGEADALcNIONcONNcORcPEITHcRUIScSAILcSTRAIF",
   "cTINNEcUATHcUILLEANNcURbREVERSED FEATHER MARKbSPACE MARKaOGONEKaOHM SIGNaOIL DRUMaOK HAND SIGN",
   "aOL CHIKI AHADcDIGIT EIGHTdFIVEdFOURdNINEdONEdSEVENdSIXdTHREEdTWOdZEROcGAAHLAA TTUDDAAG",
   "cLETTER AAJdAAKdAAMdAAWdAGdALdANGdATdEDDdENdEPdERRdIHdINYdIRdISdLAdLAAdLEdLIdLOdLUdOBdOHdOTT",
   "dOVdUCdUDdUNNdUYcMU TTUDDAGcMU-GAAHLAA TTUDDAAGcPHAARKAAcPUNCTUATION DOUBLE MUCAADdMUCAAD",
   "cRELAAaOLD CHINESE HOOK MARKcITERATION MARKbHUNGARIAN CAPITAL LETTER AeAAeAKeAMBeANDeCLOSE EeE",
   "eEBeECeECHeECSeEDeEEeEFeEGeEGYeEHeEJeEKeELeELYeEMeEMPeENeENCeENTeENT-SHAPED SIGNeENYeEPeEReES",
   "eESZeETeETYeEVeEZeEZSeIeIIeNIKOLSBURG OEfUEeOeOEEeOOeRUDIMENTA OEfUEeSHORT EReUeUNKeUSeUU",
   "cNUMBER FIFTYdFIVEdONEeHUNDREDeTHOUSANDdTENcSMALL LETTER AeAAeAKeAMBeANDeCLOSE EeEeEBeECeECH",
   "eECSeEDeEEeEFeEGeEGYeEHeEJeEKeELeELYeEMeEMPeENeENCeENTeENT-SHAPED SIGNeENYeEPeEReESeESZeETeETY",
   "eEVeEZeEZSeIeIIeNIKOLSBURG OEfUEeOeOEEeOOeRUDIMENTA OEfUEeSHORT EReUeUNKeUSeUUbITALIC LETTER A",
   "dBEdCHEdDEdEdEFdEKSdELdEMdENdERdERSdESdESHdESSdHEdIdIIdKAdKEdKHEdKUdNORTHERN TSEdOdPEdPHEdSHE",
   "dSOUTHERN TSEdTEdTHEdUdUUdVEdYEdZEcNUMERAL FIFTYdFIVEdONEdTENbKEYbNORTH ARABIAN LETTER AIN",
   "eALEFeBEHeDADeDALeES-1eES-2eES-3eFEHeGEEMeGHAINeHAHeHEHeKAFeKHAHeLAMeMEEMeNOONeQAFeREHeSADeTAH",
   "eTEHeTHALeTHEHeWAWeYEHeZAHeZAINdNUMBER ONEeTENeTWENTYbPERMIC LETTER ANdBURdCHERYdDOIdDZHOI",
   "dDZITAdEdEFdGAIdHAdIdIAdIEdKOKEdLEIdMENOEdNENOEdOdOOdPEEIdREIdSHCHOOIdSHOOIdSIIdTAIdTSIUdUdVER",
   "dVOOIdYAdYATdYERdYERIdYERUdYRYdYUdZATAdZHOIbPERSIAN NUMBER HUNDREDdONEdTENdTWENTYdTWOcSIGN A",
   "dAURAMAZDAAdAURAMAZDAA-2dAURAMAZDAAHAdBAdBAGAdBUUMISHdCAdDAdDAHYAAUSHdDAHYAAUSH-2dDIdDUdFAdGA",
   "dGUdHAdIdJAdJIdKAdKUdLAdMAdMIdMUdNAdNUdPAdRAdRUdSAdSHAdSSAdTAdTHAdTUdUdVAdVIdXAdXSHAAYATHIYA",
   "dYAdZAcWORD DIVIDERbPERSONAL COMPUTERbSOGDIAN FRACTION ONE HALFcLETTER ALEPHdALTERNATE AYIN",
   "dAYINdBETHdFINAL ALEPHeBETHeHEeNUNfWITH VERTICAL TAILeSADHEfWITH VERTICAL TAILeTAW",
   "fWITH VERTICAL TAILdGIMELdHEdHETHdKAPHdLAMEDHdMEMdNUNdPEdRESH-AYIN-DALETHdSADHEdSAMEKHdSHIN",
   "dTAWdWAWdYODHdZAYINcLIGATURE AYIN-DALETHcNUMBER FIVEdFOURdONEeHUNDREDdTENdTHIRTYdTHREEdTWENTY",
   "dTWObSOUTH ARABIAN LETTER ALEFeAYNeBETHeDALETHeDHADHEeDHALETHeFEeGHAYNeGIMELeHEeHETHeKAPH",
   "eKHETHeLAMEDHeMEMeNUNeQOPHeRESHeSADHEeSAMEKHeSATeSHINeTAWeTETHeTHAWeTHETHeWAWeYODHeZAYN",
   "dNUMBER FIFTYeONEdNUMERIC INDICATORbTURKIC LETTER ORKHON AeABeADeAEBeAEDeAEGeAEKeAELeAENeAER",
   "eAESeAETeAEYeAGeALeANeAQeAReASeASHeATeAYeBASHeECeELTeEMeENCeENGeENTeENYeEPeESHeEZeIeICeIQeOeOE",
   "eOEKeOPeOQeOTdYENISEI AeABeADeAEeAEBeAEGeAEKeAENeAENGeAETeAEYeAGeALeANGeAQeAReASHeATeAYeEeEC",
   "eENCeENTeENYeESHeEZeIeIQeOEeOEKeOQbUYGHUR COMBINING DOT ABOVEeBELOWdTWO DOTS ABOVEfBELOW",
   "cLETTER ALEPHdBETHdFINAL HETHdGIMEL-HETHdKAPHdLAMEDHdLESHdMEMdNUNdPEdRESHdSADHEdSAMEKHdSHIN",
   "dTAWdWAWdYODHdZAYINcPUNCTUATION BARdFOUR DOTSdTWO BARSeDOTSaOLDER ADULTbMANbWOMANaOLIVE",
   "aOM SYMBOLaON WITH EXCLAMATION MARK WITH LEFT RIGHT ARROW ABOVEaONCOMING AUTOMOBILEbBUS",
   "bFIRE ENGINEbPOLICE CARbTAXIaONE BUTTON MOUSEbDOT LEADERcOVER TWO DOTS PUNCTUATION",
   "aONE-PIECE SWIMSUITaONIONaOPEN BOOKbBOXbCENTRE ASTERISKcBLACK STARcCROSS",
   "cTEARDROP-SPOKED ASTERISKbFILE FOLDERbFOLDERbHANDS SIGNbLOCKbMAILBOX WITH LOWERED FLAG",
   "dRAISED FLAGbSUBSETbSUPERSETaOPEN-CIRCUIT-OUTPUT H-TYPE SYMBOLbL-TYPE SYMBOL",
   "aOPEN-OUTLINED RIGHTWARDS ARROWaOPERATING SYSTEM COMMANDaOPHIUCHUSaOPPOSITIONaOPTICAL DISC",
   "cICONaOPTION KEYaOR WITH DOT INSIDEaORANGE BOOKbHEARTaORANGUTANaORIGINAL OF",
   "aORIYA AI LENGTH MARKbAU LENGTH MARKbDIGIT EIGHTcFIVEcFOURcNINEcONEcSEVENcSIXcTHREEcTWOcZERO",
   "bFRACTION ONE EIGHTHdHALFdQUARTERdSIXTEENTHcTHREE QUARTERSdSIXTEENTHSbISSHARbLETTER AcAAcAIcAU",
   "cBAcBHAcCAcCHAcDAcDDAcDDHAcDHAcEcGAcGHAcHAcIcIIcJAcJHAcKAcKHAcLAcLLAcMAcNAcNGAcNNAcNYAcOcPA",
   "cPHAcRAcRHAcRRAcSAcSHAcSSAcTAcTHAcTTAcTTHAcUcUUcVAcVOCALIC LdLLdRdRRcWAcYAcYYAbSIGN ANUSVARA",
   "cAVAGRAHAcCANDRABINDUcNUKTAcOVERLINEcVIRAMAcVISARGAbVOWEL SIGN AAdAIdAUdEdIdIIdOdUdUU",
   "dVOCALIC LeLLeReRRaORNATE LEFT PARENTHESISbRIGHT PARENTHESISaORTHODOX CROSS",
   "aOSAGE CAPITAL LETTER AdAHdAIdAINdBRAdCHAdDHAdEdEHCHAdEHKAdEHPAdEHTAdEHTSAdEINdGHAdHAdHYAdIdKA",
   "dKHAdKYAdLAdMAdNAdOdOINdPAdSAdSHAdTAdTSAdTSHAdUdWAdZAdZHAbSMALL LETTER AdAHdAIdAINdBRAdCHAdDHA",
   "dEdEHCHAdEHKAdEHPAdEHTAdEHTSAdEINdGHAdHAdHYAdIdKAdKHAdKYAdLAdMAdNAdOdOINdPAdSAdSHAdTAdTSAdTSHA",
   "dUdWAdZAdZHAaOSCaOSMANYA DIGIT EIGHTcFIVEcFOURcNINEcONEcSEVENcSIXcTHREEcTWOcZERObLETTER AcAA",
   "cALEFcBAcCAYNcDEELcDHAcEcEEcFAcGAcHAcIcJAcKAAFcKHAcLAANcMIINcNUUNcOcOOcQAAFcRAcSAcSHIINcTAcU",
   "cWAWcXAcYAaOTTERaOTTOMAN SIYAQ ALTERNATE NUMBER EIGHTeFIVEeFOURfHUNDREDeNINEeSEVENeSIXfHUNDRED",
   "eTENfTHOUSANDeTHREEeTWOfTHOUSANDcFRACTION ONE HALFeSIXTHcMARRATANcNUMBER EIGHTeHUNDRED",
   "eTHOUSANDdEIGHTYeTHOUSANDdFIFTYeTHOUSANDdFIVEeHUNDREDeTHOUSANDdFORTYeTHOUSANDdFOUReHUNDRED",
   "eTHOUSANDdNINEeHUNDREDeTHOUSANDdNINETYeTHOUSANDdONEeHUNDREDeTHOUSANDdSEVENeHUNDREDeTHOUSAND",
   "dSEVENTYeTHOUSANDdSIXeHUNDREDeTHOUSANDdSIXTYeTHOUSANDdTENeTHOUSANDdTHIRTYeTHOUSANDdTHREE",
   "eHUNDREDeTHOUSANDdTWENTYeTHOUSANDdTWOeHUNDREDeTHOUSANDaOUNCE SIGNaOUTBOX TRAY",
   "aOUTLINED BLACK STARbGREEK CROSSbLATIN CROSSbWHITE STARaOVERHEATED FACEaOVERLAP",
   "aOVERLAPPING BLACK SQUARESbWHITE AND BLACK SQUAREScSQUARESaOVERLINEaOWLaOXaOYSTERaPACKAGEaPAD",
   "aPADDING CHARACTERaPAGEbFACING UPbWITH CIRCLED TEXTcCURLaPAGERaPAGESaPAGODA",
   "aPAHAWH HMONG CLAN SIGN FAJeHAMeHAWJeKHABeKOOeKWMeLAUJeLISeMUASePHABeTHOJeTSABeTSHEEJeTSWBeVAJ",
   "eVWJeXYOOJeYAJeYEEGcCONSONANT AUdCAUdCHAUdHAUdHLAUdHNAUdLAUdMAUdNAUdNCHAUdNKAUdNLAUdNTHAU",
   "dNTSAUdPLHAUdQHAUdRAUdVAUdXAUdYAUcDIGIT EIGHTdFIVEdFOURdNINEdONEdSEVENdSIXdTHREEdTWOdZERO",
   "cMARK CIM HOMeKESeKHAVeSOeSUAMeTAUMeTUBcNUMBER HUNDRED MILLIONSdHUNDREDSdMILLIONSdTEN BILLIONS",
   "eTHOUSANDSdTENSdTRILLIONScSIGN AVdCIM CHEEMeCUAM TSHOOJeHAIS LUS NTOG NTOGeNRES TOSePUB DAWB",
   "eTSOV ROGeTXWVfCHWVdHLIdHNUBdIB YAMdLOSdMEEJ SUABeTSEEBdMUSdNQIGdNTUJdTAUdTHIRD-STAGE HLI",
   "dTXHEEJ CEEVdVOS FEEMeLUBeNRUAeSEEVeTHIABeTHOMeTSHAB CEEBdXAUSdXIABdXYEEM FAIBeNTXIVeRHOeTOV",
   "dXYOOdZWJ THAJcVOWEL KAABdKAAVdKABdKAIBdKAIVdKAUBdKAUVdKAVdKAWBdKAWVdKEBdKEEBdKEEVdKEVdKIAB",
   "dKIAVdKIBdKIVdKOBdKOOBdKOOVdKOVdKUABdKUAVdKUBdKUVdKWBdKWVaPALLASaPALM BRANCHbDOWN HANDbTREE",
   "bUP HANDaPALMS UP TOGETHERaPALMYRENE LEFT-POINTING FLEURONbLETTER ALEPHcAYINcBETHcDALETH",
   "cFINAL NUNcGIMELcHEcHETHcKAPHcLAMEDHcMEMcNUNcPEcQOPHcRESHcSADHEcSAMEKHcSHINcTAWcTETHcWAWcYODH",
   "cZAYINbNUMBER FIVEcFOURcONEcTENcTHREEcTWENTYcTWObRIGHT-POINTING FLEURONaPANCAKESaPANDA FACE",
   "aPAPERCLIPaPARACHUTEaPARAGRAPH SEPARATORaPARAGRAPHOSaPARAGRAPHUS MARKaPARALLEL TO",
   "bWITH HORIZONTAL STROKEcTILDE OPERATORaPARENTHESIZED DIGIT EIGHTcFIVEcFOURcNINEcONEcSEVENcSIX",
   "cTHREEcTWObHANGUL CHIEUCHdAcCIEUCdAdUcHIEUHdAcIEUNGdAcKHIEUKHdAcKIYEOKdAcMIEUMdAcNIEUNdA",
   "cPHIEUPHdAcPIEUPdAcRIEULdAcSIOSdAcTHIEUTHdAcTIKEUTdAbIDEOGRAPH ALLIANCEcCALLcCONGRATULATION",
   "cEARTHcEIGHTcENTERPRISEcFESTIVALcFINANCIALcFIREcFIVEcFOURcHAVEcLABORcMETALcMOONcNAMEcNINEcONE",
   "cREACHcREPRESENTcRESOURCEcRESTcSELFcSEVENcSIXcSOCIETYcSPECIALcSTOCKcSTUDYcSUNcSUPERVISEcTEN",
   "cTHREEcTWOcWATERcWOODbKOREAN CHARACTER O HUdOJEONbLATIN CAPITAL LETTER AeBeCeDeEeFeGeHeIeJeKeL",
   "eMeNeOePeQeReSeTeUeVeWeXeYeZcSMALL LETTER AeBeCeDeEeFeGeHeIeJeKeLeMeNeOePeQeReSeTeUeVeWeXeYeZ",
   "bNUMBER EIGHTEENcELEVENcFIFTEENcFOURTEENcNINETEENcSEVENTEENcSIXTEENcTENcTHIRTEENcTWELVEcTWENTY",
   "aPARROTaPART ALTERNATION MARKaPARTIAL DIFFERENTIALbLINE BACKWARDcDOWNcFORWARDcUP",
   "aPARTIALLY-RECYCLED PAPER SYMBOLaPARTNERSHIP SIGNaPARTY POPPERaPASSED SYMBOLaPASSENGER SHIP",
   "aPASSIVE-PULL-DOWN-OUTPUT SYMBOLaPASSIVE-PULL-UP-OUTPUT SYMBOLaPASSPORT CONTROL",
   "aPAU CIN HAU GLOTTAL STOPfFINALfVARIANTdLETTER AeBAeCAeCHAeDAeEeFAeFINAL KfLfMfNfNGfPfTfWfYeGA",
   "eHAeIeIAeKAeKHAeLAeMAeNAeNGAeOePAePHAeRAeSAeTAeTHAeUeUAeVAeZAdLOW-FALLING TONEfFINALfLONG",
   "gFINALdMID-LEVEL TONEfFINALfLONG FINALdRISING TONEfFINALfLONGgFINALdSANDHI GLOTTAL STOPgFINAL",
   "eTONEfFINALfLONGgFINALaPAW PRINTSaPDFaPDIaPEACE SYMBOLaPEACHaPEACOCKaPEANUTSaPEARaPEDESTRIAN",
   "aPEN OVER STAMPED ENVELOPEaPENCILaPENGUINaPENSIVE FACEaPENTAGRAMaPEOPLE HUGGINGaPER MILLE SIGN",
   "bSIGNbTEN THOUSAND SIGNaPERCENT SIGNaPERFORMING ARTSaPERMANENT PAPER SIGNaPERPENDICULARbWITH S",
   "aPERSEVERING FACEaPERSON BOWING DEEPLYbCLIMBINGbDOING CARTWHEELbFROWNINGbIN LOTUS POSITION",
   "cSTEAMY ROOMbRAISING BOTH HANDS IN CELEBRATIONbWITH BALLcBLOND HAIRcCROWNcFOLDED HANDS",
   "cHEADSCARFcPOUTING FACEaPERSONAL COMPUTERaPERSPECTIVEaPESETA SIGNaPESO SIGNaPETRI DISH",
   "aPHAGS-PA DOUBLE HEAD MARKbLETTER AcALTERNATE YAcASPIRATED FAcBAcCAcCANDRABINDUcCHAcDAcDDAcDZA",
   "cEcEEcFAcGAcGGAcHAcIcJAcKAcKHAcLAcMAcNAcNGAcNNAcNYAcOcPAcPHAcQAcRAcSAcSHAcSMALL AcTAcTHAcTSA",
   "cTSHAcTTAcTTHAcUcVOICED HAcVOICELESS SHAcWAcXAcYAcZAcZHAbMARK DOUBLE SHADcSHAD",
   "bSINGLE HEAD MARKbSUBJOINED LETTER RAdWAdYAbSUPERFIXED LETTER RAaPHAISTOS DISC SIGN ARROWdBEE",
   "dBEEHIVEdBOOMERANGdBOWdBULLS LEGdCAPTIVEdCARPENTRY PLANEdCATdCHILDdCLUBdCOLUMNdCOMB",
   "dCOMBINING OBLIQUE STROKEdDOLIUMdDOVEdEAGLEdFLUTEdGAUNTLETdGRATERdHELMETdHIDEdHORNdLIDdLILY",
   "dMANACLESdMATTOCKdOX BACKdPAPYRUSdPEDESTRIANdPLANE TREEdPLUMED HEADdRAMdROSETTEdSAWdSHIELD",
   "dSHIPdSLINGdSMALL AXEdSTRAINERdTATTOOED HEADdTIARAdTUNNYdVINEdWAVY BANDdWOMAN",
   "aPHILIPPINE DOUBLE PUNCTUATIONbSINGLE PUNCTUATIONaPHOENICIAN LETTER AINcALFcBETcDELTcGAMLcHE",
   "cHETcKAFcLAMDcMEMcNUNcPEcQOFcROSHcSADEcSEMKcSHINcTAUcTETcWAUcYODcZAIbNUMBER ONEdHUNDREDcTEN",
   "cTHREEcTWENTYcTWObWORD SEPARATORaPHOLUSaPICKaPICKUP TRUCKaPIEaPIGbFACEbNOSEaPILCROW SIGN",
   "aPILE OF POOaPILLaPINATAaPINCHED FINGERSaPINCHING HANDaPINE DECORATIONaPINEAPPLEaPINWHEEL STAR",
   "aPISCESaPISTOLaPITCHFORKbWITH TEE TOPaPLACARDaPLACE OF INTEREST SIGNcWORSHIPaPLANCK CONSTANT",
   "cOVER TWO PIaPLAYGROUND SLIDEaPLAYING CARD ACE OF CLUBSeDIAMONDSeHEARTSeSPADEScBACK",
   "cBLACK JOKERcEIGHT OF CLUBSeDIAMONDSeHEARTSeSPADEScFIVE OF CLUBSeDIAMONDSeHEARTSeSPADEScFOOL",
   "cFOUR OF CLUBSeDIAMONDSeHEARTSeSPADEScJACK OF CLUBSeDIAMONDSeHEARTSeSPADEScKING OF CLUBS",
   "eDIAMONDSeHEARTSeSPADEScKNIGHT OF CLUBSeDIAMONDSeHEARTSeSPADEScNINE OF CLUBSeDIAMONDSeHEARTS",
   "eSPADEScQUEEN OF CLUBSeDIAMONDSeHEARTSeSPADEScRED JOKERcSEVEN OF CLUBSeDIAMONDSeHEARTSeSPADES",
   "cSIX OF CLUBSeDIAMONDSeHEARTSeSPADEScTEN OF CLUBSeDIAMONDSeHEARTSeSPADEScTHREE OF CLUBS",
   "eDIAMONDSeHEARTSeSPADEScTRUMP-1cTRUMP-10cTRUMP-11cTRUMP-12cTRUMP-13cTRUMP-14cTRUMP-15cTRUMP-16",
   "cTRUMP-17cTRUMP-18cTRUMP-19cTRUMP-2cTRUMP-20cTRUMP-21cTRUMP-3cTRUMP-4cTRUMP-5cTRUMP-6cTRUMP-7",
   "cTRUMP-8cTRUMP-9cTWO OF CLUBSeDIAMONDSeHEARTSeSPADEScWHITE JOKERaPLDaPLUaPLUNGERaPLUS SIGN",
   "cABOVE EQUALS SIGNcIN LEFT HALF CIRCLEdRIGHT HALF CIRCLEdTRIANGLEcWITH BLACK TRIANGLE",
   "dCIRCUMFLEX ACCENT ABOVEdDOT BELOWdSMALL CIRCLE ABOVEdSUBSCRIPT TWOdTILDE ABOVEeBELOW",
   "aPLUS-MINUS SIGNaPLUTObFORM FIVEcFOURcTHREEcTWOaPMaPOCKET CALCULATORaPOLICE CAR",
   "bCARS REVOLVING LIGHTbOFFICERaPOODLEaPOP DIRECTIONAL FORMATTINGcISOLATEaPOPCORN",
   "aPORTABLE STEREOaPOSEIDONaPOSITION INDICATORaPOSTAL HORNbMARKcFACEaPOSTBOXaPOT OF FOOD",
   "aPOTABLE WATER SYMBOLaPOTATOaPOTTED PLANTaPOUCHaPOULTRY LEGaPOUND SIGNaPOURING LIQUID",
   "aPOUTING CAT FACEbFACEaPOWER ON SYMBOLbON-OFF SYMBOLbSLEEP SYMBOLbSYMBOLaPRAYER BEADSaPRECEDES",
   "bABOVE ALMOST EQUAL TOcEQUALS SIGNcNOT ALMOST EQUAL TOdEQUAL TOcSINGLE-LINE EQUALS SIGN",
   "dNOT EQUAL TObBUT NOT EQUIVALENT TObOR EQUAL TOcEQUIVALENT TObUNDER RELATIONaPREGNANT MAN",
   "bPERSONbWOMANaPRESCRIPTION TAKEaPRESENTATION FORM FOR VERTICAL COLONeCOMMAeEM DASHeEN DASH",
   "eEXCLAMATION MARKeHORIZONTAL ELLIPSISeIDEOGRAPHIC COMMAfFULL STOPeLEFT ANGLE BRACKET",
   "fBLACK LENTICULAR BRACKETfCORNER BRACKETfCURLY BRACKETfDOUBLE ANGLE BRACKETfPARENTHESIS",
   "fSQUARE BRACKETfTORTOISE SHELL BRACKETfWHITE CORNER BRACKETgLENTICULAR BRACKETeLOW LINE",
   "eQUESTION MARKeRIGHT ANGLE BRACKETfBLACK LENTICULAR BRACKETfCORNER BRACKETfCURLY BRACKET",
   "fDOUBLE ANGLE BRACKETfPARENTHESISfSQUARE BRACKETfTORTOISE SHELL BRACKETfWHITE CORNER BRACKET",
   "gLENTICULAR BRACKEThBRAKCETeSEMICOLONeTWO DOT LEADEReWAVY LOW LINEaPRETZELaPREVIOUS PAGEaPRIME",
   "aPRINCEaPRINCESSaPRINT SCREEN SYMBOLaPRINTERbICONaPRIVACY MESSAGEaPRIVATE USE ONEcTWObUSE-1",
   "bUSE-2aPROBING CANEaPROHIBITED SIGNaPROJECTIVEaPROPERTY LINEaPROPORTIONaPROPORTIONAL TO",
   "aPROSERPINAaPSALTER PAHLAVI FOUR DOTS WITH CROSSfDOTcLETTER ALEPHdBETHdDALETHdGIMELdHEdHETH",
   "dKAPHdLAMEDHdMEM-QOPHdNUNdPEdSADHEdSAMEKHdSHINdTAWdWAW-AYIN-RESHdYODHdZAYINcNUMBER FOURdONE",
   "eHUNDREDdTENdTHREEdTWENTYdTWOcSECTION MARKcTURNED SECTION MARKaPU1aPU2",
   "aPUBLIC ADDRESS LOUDSPEAKERaPUNCTUATION SPACEaPUNCTUS ELEVATUS MARKaPURPLE HEARTaPURSEaPUSHPIN",
   "aPUT LITTER IN ITS PLACE SYMBOLaQUADRANT LOWER LEFTcRIGHTbUPPER LEFT",
   "dAND LOWER LEFT AND LOWER RIGHTfRIGHTeUPPER RIGHT AND LOWER LEFTiRIGHTcRIGHTdAND LOWER LEFT",
   "gAND LOWER RIGHTaQUADRUPLE INTEGRAL OPERATORbPRIMEaQUARTER NOTEaQUATERNION INTEGRAL OPERATOR",
   "aQUESTION EXCLAMATION MARKbMARKaQUESTIONED EQUAL TOaQUINCUNXaQUOTATION MARKaRABBITbFACE",
   "aRACCOONaRACING CARbMOTORCYCLEaRADICAL SYMBOL BOTTOMaRADIObBUTTONaRADIOACTIVE SIGNaRAILWAY CAR",
   "bTRACKaRAINaRAINBOWaRAISED BACK OF HANDbCOMMAbDOTbDOTTED INTERPOLATION MARKERbFISTbHAND",
   "cWITH FINGERS SPLAYEDdPART BETWEEN MIDDLE AND RING FINGERSbINTERPOLATION MARKERbMC SIGN",
   "bMD SIGNbMR SIGNbSQUAREaRAMaRATaRATIOaRAZORaRECEIPTaRECORD SEPARATORaRECREATIONAL VEHICLE",
   "aRECYCLED PAPER SYMBOLaRECYCLING SYMBOL FOR GENERIC MATERIALSdTYPE-1 PLASTICSdTYPE-2 PLASTICS",
   "dTYPE-3 PLASTICSdTYPE-4 PLASTICSdTYPE-5 PLASTICSdTYPE-6 PLASTICSdTYPE-7 PLASTICSaRED APPLE",
   "bGIFT ENVELOPEaREFERENCE MARKaREGIONAL INDICATOR SYMBOL LETTER AeBeCeDeEeFeGeHeIeJeKeLeMeNeOeP",
   "eQeReSeTeUeVeWeXeYeZaREGISTERED SIGNaREJANG CONSONANT SIGN HdNdNGdRbLETTER AcBAcCAcDAcGAcHAcJA",
   "cKAcLAcMAcMBAcNAcNDAcNGAcNGGAcNYAcNYJAcPAcRAcSAcTAcWAcYAbSECTION MARKbVIRAMAbVOWEL SIGN AIdAU",
   "dEdEAdEUdIdOdUaRELIEVED FACEaREMINDER RIBBONaREPLACEMENT CHARACTERaRESPONSE",
   "aRESTRICTED LEFT ENTRY-1cENTRY-2aRESTROOMaRETURN LEFTbRIGHTbSYMBOLaREVERSE CHECKER BOARDbINDEX",
   "bLIGHT FOUR POINTED PINWHEEL STARbLINE FEEDbSOLIDUScOPERATORcPRECEDING SUBSET",
   "cWITH HORIZONTAL STROKEbTILDE OPERATOR ABOVE LEFTWARDS ARROWeRIGHTWARDS ARROWaREVERSED ANGLE",
   "cWITH UNDERBARbCOMMAbDOUBLE PRIMEdQUOTATION MARKcSTROKE NOT SIGNbEMPTY SETbFORKED PARAGRAPHOS",
   "bHAND WITH MIDDLE FINGER EXTENDEDbNOT SIGNbPILCROW SIGNbPRIMEbQUESTION MARK",
   "bRAISED HAND WITH FINGERS SPLAYEDbRIGHT ANGLEbROTATED FLORAL HEART BULLETbSANS-SERIF CAPITAL L",
   "bSEMICOLONbTHUMBS DOWN SIGNcUP SIGNbTILDEcEQUALSbTRIPLE PRIMEbVICTORY HANDaREVOLVING HEARTS",
   "aRHINOCEROSaRIaRIAL SIGNaRIBBONbARROW DOWN LEFTdRIGHTcLEFT DOWNdUPcRIGHT DOWNdUPcUP LEFTdRIGHT",
   "aRICE BALLbCRACKERaRIFLEaRIGHT AND LOWER ONE EIGHTH BLOCKcUPPER ONE EIGHTH BLOCKbANGER BUBBLE",
   "bANGLEcBRACKETdWITH DOTcDOTTED SUBSTITUTION MARKERcSUBSTITUTION MARKERcVARIANT WITH SQUARE",
   "cWITH ARCdDOWNWARDS ZIGZAG ARROWbARC GREATER-THAN BRACKETbARROW WITH CIRCLED PLUSdSMALL CIRCLE",
   "bBLACK LENTICULAR BRACKETcTORTOISE SHELL BRACKETbCEILINGbCORNER BRACKETbCURLY BRACKET",
   "dLOWER HOOKdMIDDLE PIECEdUPPER HOOKbDOTTED SUBSTITUTION BRACKETbDOUBLE ANGLE BRACKET",
   "cARROW WITH ROUNDED HEADcPARENTHESIScQUOTATION MARKcWIGGLY FENCEbFISH TAILbFIVE EIGHTHS BLOCK",
   "bFLOORbHALF BLACK CIRCLEdSTARcBLOCKcFOLDERcMEDIUM SHADEcRUNNING MANbHAND TELEPHONE RECEIVER",
   "bLOW PARAPHRASE BRACKETbNORMAL FACTOR SEMIDIRECT PRODUCTbONE EIGHTH BLOCKcQUARTER BLOCK",
   "bOPEN SQUARED DOTbOUTER JOINbPARENTHESIScEXTENSIONcLOWER HOOKcUPPER HOOK",
   "bRAISED OMISSION BRACKETbS-SHAPED BAG DELIMITERbSEMIDIRECT PRODUCTbSEVEN EIGHTHS BLOCK",
   "bSIDEWAYS U BRACKETbSINGLE QUOTATION MARKbSPEAKERcWITH ONE SOUND WAVEdTHREE SOUND WAVES",
   "bSPEECH BUBBLEbSQUARE BRACKETdEXTENSIONdLOWER CORNERdUPPER CORNERdWITH DOUBLE STROKEeQUILL",
   "eSTROKEeTICK IN BOTTOM CORNERgTOP CORNEReUNDERBARbSUBSTITUTION BRACKETbTACK",
   "bTHIRD WHITE RIGHT POINTING INDEXbTHOUGHT BUBBLEbTHREE EIGHTHS BLOCKcQUARTERS BLOCK",
   "bTORTOISE SHELL BRACKETbTRANSPOSITION BRACKETbTRIANGLEcABOVE LEFT TRIANGLE",
   "bTRIANGULAR ONE QUARTER BLOCKbVERTICAL BAR WITH QUILLcBOX LINEbWHITE CORNER BRACKET",
   "cCURLY BRACKETcLENTICULAR BRACKETcPARENTHESIScSQUARE BRACKETcTORTOISE SHELL BRACKET",
   "bWIGGLY FENCEaRIGHT-FACING ARMENIAN ETERNITY SIGNbFISTbSVASTI SIGNdWITH DOTS",
   "aRIGHT-HANDED INTERLACED PENTAGRAMaRIGHT-POINTING ANGLE BRACKETbCURVED ANGLE BRACKET",
   "bDOUBLE ANGLE QUOTATION MARKbMAGNIFYING GLASSaRIGHT-SHADED WHITE RIGHTWARDS ARROW",
   "aRIGHT-SIDE ARC CLOCKWISE ARROWaRIGHT-TO-LEFT EMBEDDINGbISOLATEbMARKbOVERRIDE",
   "aRIGHTHAND INTERIOR PRODUCTaRIGHTWARDS ARROWcABOVE ALMOST EQUAL TOdREVERSE ALMOST EQUAL TO",
   "eTILDE OPERATORdSHORT LEFTWARDS ARROWdTILDE OPERATORcAND UPPER AND LOWER ONE EIGHTH BLOCK",
   "cFROM BAReTO BLACK DIAMONDcOVER LEFTWARDS ARROWcTHROUGH GREATER-THANdSUPERSETdXcTO BAR",
   "dBLACK DIAMONDcWITH CORNER DOWNWARDSdDOTTED STEMdDOUBLE VERTICAL STROKEdEQUILATERAL ARROWHEAD",
   "dHOOKdLARGE TRIANGLE ARROWHEADdLOOPdMEDIUM TRIANGLE ARROWHEADdNOTCHED TAILdPLUS BELOW",
   "dSMALL EQUILATERAL ARROWHEADeTRIANGLE ARROWHEADdSTROKEdTAILeWITH DOUBLE VERTICAL STROKE",
   "fVERTICAL STROKEdTIP DOWNWARDSeUPWARDSdVERTICAL STROKEbARROW-TAIL",
   "bBACK-TILTED SHADOWED WHITE ARROWbBLACK ARROWcCIRCLED WHITE ARROWbBOTTOM SHADED WHITE ARROW",
   "bCOMPRESSED ARROWbDASHED ARROWbDOUBLE ARROWdFROM BARdWITH STROKEeVERTICAL STROKEcARROW-TAIL",
   "cDASH ARROWbFINGER-POST ARROWbFRONT-TILTED SHADOWED WHITE ARROWbHAND",
   "bHARPOON OVER LEFTWARDS HARPOONcWITH BARB DOWN ABOVE LEFTWARDS HARPOON WITH BARB DOWN",
   "fBELOW LONG DASHfFROM BARfTO BAReDOWNWARDSeUP ABOVE LEFTWARDS HARPOON WITH BARB UPgLONG DASH",
   "gRIGHTWARDS HARPOON WITH BARB DOWNfFROM BARfTO BAReUPWARDSbHEAVY ARROWcCOMPRESSED ARROW",
   "bLEFT-SHADED WHITE ARROWbOPEN-HEADED ARROWbPAIRED ARROWSbQUADRUPLE ARROW",
   "bRIGHT-SHADED WHITE ARROWbROCKETbSANS-SERIF ARROWbSQUARED ARROWbSQUIGGLE ARROW",
   "bTOP SHADED WHITE ARROWbTRIANGLE ARROWHEADbTRIANGLE-HEADED ARROW",
   "dOVER LEFTWARDS TRIANGLE-HEADED ARROWdTO BARdWITH BOLD SHAFTeDOUBLE HORIZONTAL STROKE",
   "fVERTICAL STROKEeHEAVY SHAFTeLONG TIP DOWNWARDSgUPWARDSeMEDIUM SHAFTeNARROW SHAFT",
   "eVERY HEAVY SHAFTcDASHED ARROWcPAIRED ARROWSbTRIPLE ARROWcDASH ARROWbTWO HEADED ARROW",
   "bTWO-HEADED ARROW FROM BARdWITH DOUBLE VERTICAL STROKEeTAILfWITH DOUBLE VERTICAL STROKE",
   "gVERTICAL STROKEeTRIANGLE ARROWHEADSeVERTICAL STROKEcTRIPLE DASH ARROWbWAVE ARROWbWHITE ARROW",
   "dFROM WALLdWITHIN TRIANGLE ARROWHEADaRINGbABOVEbBUOYbEQUAL TObIN EQUAL TObOPERATORbPOINT",
   "aRINGED PLANETaRINGING BELLaRISING DIAGONAL CROSSING FALLING DIAGONALdSOUTH EAST ARROWaRLEaRLI",
   "aRLMaRLOaROASTED SWEET POTATOaROBOT FACEaROCKaROCKETaROLL OF PAPERaROLLED-UP NEWSPAPER",
   "aROLLER COASTERbSKATEaROLLING ON THE FLOOR LAUGHINGaROMAN AS SIGNbCENTURIAL SIGNbDENARIUS SIGN",
   "bDIMIDIA SEXTULA SIGNbDUPONDIUS SIGNbNUMERAL EIGHTcELEVENcFIFTYdEARLY FORMdTHOUSANDcFIVE",
   "dHUNDREDdTHOUSANDcFOURcNINEcONEdHUNDREDeTHOUSANDdTHOUSANDeC DcREVERSED ONE HUNDREDcSEVENcSIX",
   "dLATE FORMcTENdTHOUSANDcTHREEcTWELVEcTWObQUINARIUS SIGNbSEMUNCIA SIGNbSESTERTIUS SIGN",
   "bSEXTANS SIGNbSEXTULA SIGNbSILIQUA SIGNbUNCIA SIGNaROOSTERaROSEaROSETTEaROTATED CAPITAL Q",
   "bFLORAL HEART BULLETbHEAVY BLACK HEART BULLETbLIGHT FOUR POINTED BLACK CUSP",
   "bWHITE FOUR POINTED CUSPaROUND PUSHPINbTARGETaROUNDED SYMBOL FOR CAIdFUdLUdSHOUdSHUANGXIdXI",
   "aROWBOATaRSaRUBLE SIGNaRUGBY FOOTBALLaRULE-DELAYEDaRUMI DIGIT EIGHTcFIVEcFOURcNINEcONEcSEVEN",
   "cSIXcTHREEcTWObFRACTION ONE HALFdQUARTERdTHIRDcTWO THIRDSbNUMBER EIGHT HUNDREDcEIGHTYcFIFTY",
   "cFIVE HUNDREDcFORTYcFOUR HUNDREDcNINE HUNDREDcNINETYcONE HUNDREDcSEVEN HUNDREDcSEVENTY",
   "cSIX HUNDREDcSIXTYcTENcTHIRTYcTHREE HUNDREDcTWENTYcTWO HUNDREDaRUNIC ARLAUG SYMBOL",
   "bBELGTHOR SYMBOLbCROSS PUNCTUATIONbLETTER AC AcAESCcALGIZ EOLHXcANSUZ A",
   "cBERKANAN BEORC BJARKAN BcCcCALCcCEALCcCENcCWEORTHcDcDAGAZ DAEG DcDOTTED-LcDOTTED-NcDOTTED-PcE",
   "cEARcEHWAZ EH EcENGcETHcFEHU FEOH FE FcFRANKS CASKET ACeAESCeEHeISeOScGcGARcGEBO GYFU GcGER",
   "cHAEGL HcHAGLAZ HcICELANDIC-YRcINGcINGWAZcIORcISAZ IS ISS IcIWAZ EOHcJERAN JcKcKAUN KcKAUNA",
   "cLAUKAZ LAGU LOGR LcLONG-BRANCH-AR AEcLONG-BRANCH-HAGALL HcLONG-BRANCH-MADR M",
   "cLONG-BRANCH-OSS OcLONG-BRANCH-YRcMANNAZ MAN McNAUDIZ NYD NAUD NcOcOEcONcOOcOPEN-PcOS O",
   "cOTHALAN ETHEL OcPERTHO PEORTH PcQcRAIDO RAD REID RcSHcSHORT-TWIG-AR AcSHORT-TWIG-BJARKAN B",
   "cSHORT-TWIG-HAGALL HcSHORT-TWIG-MADR McSHORT-TWIG-NAUD NcSHORT-TWIG-OSS OcSHORT-TWIG-SOL S",
   "cSHORT-TWIG-TYR TcSHORT-TWIG-YRcSIGEL LONG-BRANCH-SOL ScSOWILO ScSTANcTHURISAZ THURS THORN",
   "cTIWAZ TIR TYR TcURUZ UR UcVcWcWUNJO WYNN WcXcYcYRcZbMULTIPLE PUNCTUATIONbSINGLE PUNCTUATION",
   "bTVIMADUR SYMBOLaRUNNERaRUNNING SHIRT WITH SASHaRUPEE SIGN",
   "aRUSSIAN ASTROLOGICAL SYMBOL BINOVILEdNOVILEdQUINTILEdSENTAGONdTREDECILEdVIGINTILE"]

end FragmentImports.CharacterName
