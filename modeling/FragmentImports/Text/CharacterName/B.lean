namespace FragmentImports.CharacterName

def fromB : List String :=
  ["aBABYbANGELbBOTTLEbCHICKbSYMBOLaBACK OF ENVELOPEbWITH LEFTWARDS ARROW ABOVE",
   "aBACK-TILTED SHADOWED WHITE RIGHTWARDS ARROWaBACKSLANTED SOUTH ARROW WITH HOOKED TAIL",
   "eHORIZONTAL TAILaBACKSPACEaBACONaBACTRIAN CAMELaBADGERaBADMINTON RACQUET AND SHUTTLECOCKaBAGEL",
   "aBAGGAGE CLAIMaBAGUETTE BREADaBALINESE ADEG ADEGbCARIK PAMUNGKAHcPARERENcSIKIbDIGIT EIGHTcFIVE",
   "cFOURcNINEcONEcSEVENcSIXcTHREEcTWOcZERObLETTER AIKARAcAKARAdTEDUNGcARCHAIC JNYAcASYURA SASAK",
   "cBAdKEMBANGcCAdLACAcDAdMADUdMURDA ALPAPRANAeMAHAPRANAcEF SASAKcEKARAcGAdGORAcHAcIKARAdTEDUNG",
   "cJAdJERAcKAdMAHAPRANAcKAF SASAKcKHOT SASAKcLAdLENGAeTEDUNGcMAcNAdRAMBATcNGAcNYAcOKARAdTEDUNG",
   "cPAdKAPALcRAdREPAeTEDUNGcSAdSAGAdSAPAcTAdLATIKdMURDA MAHAPRANAdTAWAcTZIR SASAKcUKARAdTEDUNG",
   "cVE SASAKcWAcYAcZAL SASAKbMUSICAL SYMBOL COMBINING BENDEeENDEPeGONGeJEGOGANeKEMPLI",
   "fWITH JEGOGANeKEMPULfWITH JEGOGANeTEGEHdDAENGdDAINGdDANGeGEDEeSURANGdDENGdDEUNGdDINGdDONGdDUNG",
   "dLEFT-HAND CLOSED PLAKfPLUKeOPEN PANGfPINGfPUNGdRIGHT-HAND CLOSED TAKfTUKeOPEN DAGfDUGbPAMADA",
   "cLANTANGbPAMENENGbPANTIcLANTANGbSIGN BISAHcCECEKcREREKANcSURANGcULU CANDRAdRICEM",
   "bVOWEL SIGN LA LENGAfTEDUNGdPEPETeTEDUNGdRA REPAfTEDUNGdSUKUeILUTdTALINGeREPAfTEDUNGeTEDUNG",
   "dTEDUNGdULUeSARIbWINDUaBALL OF YARNaBALLET SHOESaBALLOONaBALLOON-SPOKED ASTERISK",
   "aBALLOT BOLD SCRIPT XbBOXcWITH BALLOTdBOLD CHECKeSCRIPT XdCHECKdLIGHT XdSCRIPT XdXbSCRIPT XbX",
   "aBAMUM COLONbCOMBINING MARK KOQNDONdTUKWENTISbCOMMAbFULL STOPbLETTER AcEEcFAAMAEcFEEcFOMcFUcI",
   "cKAcKENcKETcKEUXcKIcKOcKOGHOMcKOVUUcKPAcKUcKYEEcLAcLEEEEcLIcLOQcLUcMcMAcMBAAcMBENcMEEEEcMENcMI",
   "cMOcMUcNAcNDAAcNGAcNGGAcNGKWAENcNIcNJAEMcNJEEcNJUAEcNSHAcNTEEcNTUUcNUcNUAEcNYIcOcPAcPEEcPEUX",
   "cPHASE-A FIRIdGBIEE FONdGHEUAEGHEUAEdGHEUAERAEdKAFAdKAQdKETdKEUKEUTNDAdKPOQdKUOQdLAPAQdLET KUT",
   "dLOMMAEdLUdLUAEPdMAEKEUPdMAEMdMAEMBGBIEEdMAEMKPENdMAEMVEUXdMAENYIdMAESIdMANSUAEdMAP PIEET",
   "dMBANYIdMBAQdMEUNJOMNDEUQdMGBASAdMON NGGEUAETdMOOMEUTdMOOMPUQdMVEUAENGAMdNAA MFONdNAQ",
   "dNDA LEERAEWAdNDAANGGEUAETdNENdNGANGUdNGGENdNGKUE MFONdNGKUENZEUMdNIKAdNJAMdNKAARAEdNKINDI",
   "dNSHAdNSHIEEdNTAPeMFAAeNTAAdNTOQPENdNYETdNYIdNYIT MONGKEUAEQdNZA MFONdNZUN MEUTdPA LEERAEWA",
   "dPAAMdPAARAEdPAMSHAEdPASHAEdPETdPON MFON PIPAEMBAfPIPAEMGBIEEePA NJI PIPAEMBAgPIPAEMGBIEEdPUP",
   "dROMdSEUNYAMdSHINDA PA NJIdSHIRAEdSHOQ NSHUT YUMdSHUENSHUETdSHUMdSISAdSONJAMdSOQdSOTdSUU",
   "dTEUAENdTEUTEUWENdTITA MFONdTU MAEMBAdTUAEPdU YUQ NAEdUNKNOWNdVEEcPHASE-B FEEdFEUXdGHEUGHEN",
   "dGHEUGHEUAEMdKAMdKEUAEMdKEUPUQdKEUYEUXdKIEEMdKIQdLAANAEdLAM NSHUT NYAMdLETdLOM NTEUMdMA",
   "eNJEUAENAeNJUQAdMBA MAELEEdMBAARAEdMBEURIdMBIT MBAAKETdMBUOQdMEUQdMEUT NGGEETdMFIYAQ",
   "dMFON TEUAEQdMONTIEENdNDU NJAAdNGGAAMdNGGEU MBUdNGGUOQeLARGEdNGKINDI MVOPdNGOMdNSENdNSHUET",
   "dNTIEE SHEUOQdNYAEMAEdNYI NTEUMdPARUMdPEESHIdPITdPUNGAAMdSAKEUAEdSET TUdSHET NJAQdSHEUAEQTU",
   "dSIEEdSUEdTAAMdTU MAEMGBIEEeNSIEEdVEUMdWUAETdYAFU LEERAEWAdYEURAEcPHASE-C BUNGdFUEdGBAYIdGHAP",
   "dGHARAEdKAAdKEN FATIGUEeLAWdKETdKEUKAQdKEUMdKEUSEUXdKEUSHEUAEPdKPARAQdKUOP NKAARAEdKUTdLAMdLAP",
   "dLIQdLUdMA KEUAERIeNSIEEdMAEMBAdMAESIdMBAA CABBAGE-TREEePICKETdMBANYIdMBEEKEETdMBERAEdMBEUM",
   "dMBEUXdMBIdMBIRIEENdMBITdMBUAEMdMBUEdMGBASAQdMIEEdMUAEdNANSANAQdNAQdNDAMdNDAPdNDEUAEREEdNDEUT",
   "dNDIDAdNDOMBUdNGAQdNGGENdNGGUdNGGUAEN NYAMdNGGUEETdNGGUMdNGGUONdNGKAQdNGKUE MAEMBAdNGOMdNJAEM",
   "dNJAMdNJEEEEdNJEUXdNJUEQdNSAdNSEUAENdNSHAQdNSOMdNSUNdNSUOT NGOMdNTAAdNTENdNTEUNGBAdNTU MBIT",
   "dNYIR MKPARAQ MEUNdNZAdNZEUMdPENdPINdPIRIEENdRUdSETFONdSEUXdSHIQdSHUEQdSUAETdTAASHAEdTET",
   "dTEUTEUXdTITA YUEdTITUAEPdVEUAEPENdVEUXdWANGKUOQdWUPdYAAdYEUQdYU MUOMAEdYUMdYUWOQcPHASE-D FAA",
   "dFEUFEUAETdGHAAdGHEUAEdKETdKEUAETMEUNdKEUMdKEUOT MBUAEdKEUPdKUdKUNdKUOMdKUQdKWAETdKYEEdLEEEE",
   "dLETdLEUAEPdLEUMdLIEEdLOQdLUMdMdMAENJETdMALEERIdMBAAeSEVENdMBUOdMEEEEdMEUNdMEUTdMFEUAEdMFEUT",
   "dMFIEEdMFOdMFONdMGBEUNdMGBIEEdMGBOFUMdMONIdMUdMVOPdNDAMdNDEEdNDEUXdNDONdNGGAAMdNGGAAMAEdNGGAP",
   "dNGGEUXdNGGUOMdNGGWAENdNGKAPdNGKEUAEQdNGKEURIdNGKIEEdNGKUNdNGKYEEdNIdNJAPdNJEUAEMdNJEUTdNJI",
   "dNJIEEdNJUEQdNSHEEdNSHUTdNSIEEPdNSIEETdNSUMdNTEEdNTEUMdNTUUdNUdNYAMdNYETdNYIdNYUEdPAPdPEE",
   "dPEUTAEdPIPdPUQdPUUTdRAEMdREN MUCHeOLDdRIIdSAPdSAQdSEUAEQdSHEEdSHEUAEdSHEUXdSHIIdSHOQdSHUdSOT",
   "dSUAEdSUEdSUUdTAEdTEEEEdTEUAENdTEUNdTEUTdTIdTOQdTUdTUOTdWAPdWUAENdYAEMMAEdYENdYUOMdYUOPdYUWOQ",
   "cPHASE-E AdFAdFAQdFEEdFOMdFU CALLeIeREMEDYdFUEdFUETdGBETdGBEUXdGHAAMAEdGHETdGHEUAEdGHEUNdGHEUX",
   "dGHOMdIdKETdKEUAEdKEUXdKIdKOdKPEUXdKUETdKUOPdKUTdLAAMdLAPdLAQdLEUAEMdLOMdLOONdLOOTdLOQdLUdMA",
   "dMAEdMAEMdMAPdMAQdMBEEdMBEUMdMENdMFEUQdMGBAdMGBENdMIdMIEEdMONdMUAEdMVIdNAdNAEdNDAA MY HOUSE",
   "eSOFTNESSdNDAPdNDIAQdNDIQdNDUNdNGAdNGEUREUTdNGGEEEEdNGGEUAEdNGGEUAETdNGGUAESHAE NYAMdNGGUP",
   "dNGGURAEdNGKAdNGKAAMIdNGKEUAEMdNGKEUXdNGKUMdNGKUPdNGOPdNGOQdNGUAEdNGUAETdNJAEMLIdNJEEeEPOCH",
   "dNJEUXdNKOMdNSHIEEdNSHUEdNSHUOPdNTAPdNTUMdNYI BETWEENeCLEAVERdNZAQdNZUQdOdPA PEOPLEePLURALdPAA",
   "dPAAMdPEEMdPEUTdPEUXdPIdPIEEQdPIETdPOdPOONdPUdPUAEdPUAQdPUEdPUMdRAEdRAQdREUXdRIMGBAdSAAdSEE",
   "dSETdSHEUAEQdSHIQdSHOdSHOQdSOMdSUAENdTAAdTAAQdTAEN NTEUMdTAMdTAQdTENdTEUdTEUAEQdTOOdTOONdTOQ",
   "dTUAEdTUMdTUMAEdVEEdVEUAEdVOMdWEUXdWUEdWUOdYAPdYEUAEdYEUAETdYEUMdYEUXdYIEEdYITdYOQ COVER",
   "eSWIMMINGdYUAENdYUEQdYUNdYUQcPHASE-F EEdFOMdKAdKENdKETdKOdKPAdKUdKYEEdLAdLIdLOQdMdMAdMBAAdMBEN",
   "dMEEEEdMOdNDAAdNGGAdNGKWAENdNIdNJAEMdNJUAEdNSHAdNTEEdNUdNUAEdNYIdPEEdPEUXdPUAEdREEdRENdREUX",
   "dRIEEdRIIdRUdSAMBAdSEUXdSHIIdSHOdSHUdSIdSUUdTAAdTAEdTETdUdVUEQdWAdWUEdYAdYOQcPIcPUAEcPUEcRAE",
   "cREEcRENcREUXcRIEEcRIIcRUcSAMBAcSEUXcSHEUXcSHIIcSHOcSHUcSIcSUUcTAAcTAEcTENcTETcTIcUcWAcWUEcYA",
   "cYOQcYUQbNJAEMLIbQUESTION MARKbSEMICOLONaBANANAaBANJOaBANKaBANKNOTE WITH DOLLAR SIGNcEURO SIGN",
   "cPOUND SIGNcYEN SIGNaBAR CHARTbOF SOAPaBARBER POLEaBASEBALLaBASKETaBASKETBALL AND HOOP",
   "aBASSA VAH COMBINING HIGH TONEdHIGH-LOW TONEdLOW TONEdLOW-MID TONEdMID TONEcFULL STOPcLETTER A",
   "dBAdCEdDHIIdDOdEdEEdENNIdFAdGAHdGBUdHWAHdIdJOdKAdKPAHdMBEdOdOOdPAdSEdTOdUdUWUdVUdWAdWADDAdYEIN",
   "dYIEdZOaBATaBATAK CONSONANT SIGN HdNGbLETTER AcBAcCAcDAcGAcHAcIcJAcKARO BAcLAcMAcMANDAILING HA",
   "dNAdSAcMBAcNAcNDAcNGAcNORTHERN TAcNYAcPAcPAKPAK WAcRAcSAcSIMALUNGUN AdGAdHAdLAdMAdPAdRAdSAdWA",
   "dYAcSOUTHERN TAcUcWAcYAbPANGOLATbPANONGONANbSIGN TOMPIbSYMBOL BINDU JUDULdNA METEKdPANGOLAT",
   "dPINARBORASbVOWEL SIGN EdEEdIdKARO IeOdOdPAKPAK EdUeFOR SIMALUNGUN SAaBATHaBATHTUBaBATTERY",
   "aBEACH WITH UMBRELLAaBEAMED ASCENDING MUSICAL NOTESbDESCENDING MUSICAL NOTESbEIGHTH NOTES",
   "bSIXTEENTH NOTESaBEANSaBEAR FACEaBEARDED PERSONaBEATING HEARTaBEAVERaBECAUSEaBEDaBEER MUG",
   "aBEETLEaBELaBELLbPEPPERbSYMBOLbWITH CANCELLATION STROKEaBELLHOP BELLaBENGALI ABBREVIATION SIGN",
   "bANJIbAU LENGTH MARKbCURRENCY DENOMINATOR SIXTEENcNUMERATOR FOURdONEeLESS THAN THE DENOMINATOR",
   "dTHREEdTWObDIGIT EIGHTcFIVEcFOURcNINEcONEcSEVENcSIXcTHREEcTWOcZERObGANDA MARKbISSHARbLETTER A",
   "cAAcAIcAUcBAcBHAcCAcCHAcDAcDDAcDDHAcDHAcEcGAcGHAcHAcIcIIcJAcJHAcKAcKHAcKHANDA TAcLAcMAcNAcNGA",
   "cNNAcNYAcOcPAcPHAcRAdWITH LOWER DIAGONALeMIDDLE DIAGONALcRHAcRRAcSAcSHAcSSAcTAcTHAcTTAcTTHAcU",
   "cUUcVEDIC ANUSVARAcVOCALIC LdLLdRdRRcYAcYYAbRUPEE MARKcSIGNbSANDHI MARKbSIGN ANUSVARAcAVAGRAHA",
   "cCANDRABINDUcNUKTAcVIRAMAcVISARGAbVOWEL SIGN AAdAIdAUdEdIdIIdOdUdUUdVOCALIC LeLLeReRR",
   "aBENT ARROW POINTING DOWNWARDS THEN NORTH EASTaBENTO BOXaBENZENE RINGcWITH CIRCLEaBET SYMBOL",
   "aBETWEENaBEVERAGE BOXaBHAIKSUKI DANDAbDIGIT EIGHTcFIVEcFOURcNINEcONEcSEVENcSIXcTHREEcTWOcZERO",
   "bDOUBLE DANDAbGAP FILLER-1cFILLER-2bHUNDREDS UNIT MARKbLETTER AcAAcAIcAUcBAcBHAcCAcCHAcDAcDDA",
   "cDDHAcDHAcEcGAcGHAcHAcIcIIcJAcJHAcKAcKHAcLAcMAcNAcNGAcNNAcNYAcOcPAcPHAcRAcSAcSHAcSSAcTAcTHA",
   "cTTAcTTHAcUcUUcVAcVOCALIC LdRdRRcYAbNUMBER EIGHTcEIGHTYcFIFTYcFIVEcFORTYcFOURcNINEcNINETYcONE",
   "cSEVENcSEVENTYcSIXcSIXTYcTENcTHIRTYcTHREEcTWENTYcTWObSIGN ANUSVARAcAVAGRAHAcCANDRABINDUcVIRAMA",
   "cVISARGAbVOWEL SIGN AAdAIdAUdEdIdIIdOdUdUUdVOCALIC LeReRRbWORD SEPARATORaBICYCLEaBICYCLIST",
   "aBIG REVERSE SOLIDUSbSOLIDUSaBIKINIaBILLED CAPaBILLIARDSaBIOHAZARD SIGNaBIRDaBIRTHDAY CAKE",
   "aBISONaBITCOIN SIGNaBITING LIPaBLACK BOWTIEbCENTRE WHITE STARbCHESS BISHOP",
   "dROTATED NINETY DEGREESeTWO HUNDRED SEVENTY DEGREEScEQUIHOPPERdROTATED NINETY DEGREEScKING",
   "dROTATED NINETY DEGREESeTWO HUNDRED SEVENTY DEGREEScKNIGHTdROTATED FORTY-FIVE DEGREES",
   "eNINETY DEGREESeONE HUNDRED THIRTY-FIVE DEGREESeTHREE HUNDRED FIFTEEN DEGREES",
   "eTWO HUNDRED SEVENTY DEGREESgTWENTY-FIVE DEGREEScKNIGHT-BISHOPcKNIGHT-QUEENcKNIGHT-ROOKcPAWN",
   "dROTATED NINETY DEGREESeTWO HUNDRED SEVENTY DEGREEScQUEENdROTATED NINETY DEGREES",
   "eTWO HUNDRED SEVENTY DEGREEScROOKdROTATED NINETY DEGREESeTWO HUNDRED SEVENTY DEGREES",
   "cTURNED BISHOPdKINGdKNIGHTdPAWNdQUEENdROOKbCIRCLEcFOR RECORDcWITH DOWN ARROWdTWO WHITE DOTS",
   "dWHITE DOT RIGHTbCLUB SUITbCROSS ON SHIELDbCURVED DOWNWARDS AND LEFTWARDS ARROW",
   "eRIGHTWARDS ARROWcLEFTWARDS AND DOWNWARDS ARROWeUPWARDS ARROWcRIGHTWARDS AND DOWNWARDS ARROW",
   "eUPWARDS ARROWcUPWARDS AND LEFTWARDS ARROWeRIGHTWARDS ARROWbDIAMONDcCENTREDcMINUS WHITE X",
   "cON CROSScSUITcWITH DOWN ARROWbDOWN POINTING BACKHAND INDEXbDOWN-POINTING DOUBLE TRIANGLE",
   "cISOSCELES RIGHT TRIANGLEcSMALL TRIANGLEcTRIANGLEbDOWNWARDS EQUILATERAL ARROWHEAD",
   "bDRAUGHTS KINGcMANbDROPLETbFLAGbFLORETTEbFOLDERbFOUR POINTED STARbHARD SHELL FLOPPY DISKbHEART",
   "cSUITbHEXAGONbHORIZONTAL ELLIPSEbHOURGLASSbLARGE CIRCLEcSQUAREbLEFT LANE MERGE",
   "cPOINTING BACKHAND INDEXdINDEXbLEFT-POINTING DOUBLE TRIANGLEeWITH VERTICAL BAR",
   "cISOSCELES RIGHT TRIANGLEcPOINTERcSMALL TRIANGLEcTRIANGLEbLEFTWARDS BULLET",
   "cEQUILATERAL ARROWHEADbLOWER LEFT TRIANGLEcRIGHT TRIANGLEbLOZENGEbMEDIUM DIAMOND",
   "cDOWN-POINTING TRIANGLEeCENTREDcLEFT-POINTING TRIANGLEeCENTREDcLOZENGEcRIGHT-POINTING TRIANGLE",
   "eCENTREDcSMALL DIAMONDdLOZENGEdSQUAREcSQUAREcUP-POINTING TRIANGLEeCENTREDbMOON LILITHbNIB",
   "bOCTAGONbPARALLELOGRAMbPENNANTbPENTAGONbPUSHPINbQUESTION MARK ORNAMENTbRECTANGLE",
   "bRIGHT POINTING BACKHAND INDEXdINDEXbRIGHT-POINTING DOUBLE TRIANGLEeWITH VERTICAL BAR",
   "cISOSCELES RIGHT TRIANGLEcPENTAGONcPOINTERcSMALL TRIANGLEcTRIANGLEdWITH DOUBLE VERTICAL BAR",
   "bRIGHTWARDS ARROWcARROWHEADcBULLETcEQUILATERAL ARROWHEADbROSETTEbSAFETY SCISSORSbSCISSORS",
   "bSHOGI PIECEbSKULL AND CROSSBONESbSLIGHTLY SMALL CIRCLEdSQUAREbSMALL DIAMONDcLOZENGEcSQUARE",
   "cSTARbSMILING FACEbSNOWMANbSPADE SUITbSQUAREcBUTTONcCENTREDcFOR STOPbSTARbSUN WITH RAYS",
   "bTELEPHONEbTINY DIAMONDcLOZENGEcSQUAREbTOUCHTONE TELEPHONEbTRUCKbTWO-WAY LEFT WAY TRAFFIC",
   "bUNIVERSAL RECYCLING SYMBOLbUP POINTING BACKHAND INDEXbUP-POINTING DOUBLE TRIANGLE",
   "cISOSCELES RIGHT TRIANGLEcSMALL TRIANGLEcTRIANGLEbUPPER LEFT TRIANGLEcRIGHT TRIANGLE",
   "bUPWARDS EQUILATERAL ARROWHEADbVERTICAL ELLIPSEcRECTANGLEbVERY SMALL DIAMONDdLOZENGEdSQUARE",
   "aBLACK-FEATHERED NORTH EAST ARROWbRIGHTWARDS ARROWbSOUTH EAST ARROWaBLACK-LETTER CAPITAL CcHcI",
   "cRcZaBLANK SYMBOLaBLOCK SEXTANT-1bSEXTANT-12bSEXTANT-123bSEXTANT-1234bSEXTANT-12345",
   "bSEXTANT-12346bSEXTANT-1235bSEXTANT-12356bSEXTANT-1236bSEXTANT-124bSEXTANT-1245bSEXTANT-12456",
   "bSEXTANT-1246bSEXTANT-125bSEXTANT-1256bSEXTANT-126bSEXTANT-13bSEXTANT-134bSEXTANT-1345",
   "bSEXTANT-13456bSEXTANT-1346bSEXTANT-1356bSEXTANT-136bSEXTANT-14bSEXTANT-145bSEXTANT-1456",
   "bSEXTANT-146bSEXTANT-15bSEXTANT-156bSEXTANT-16bSEXTANT-2bSEXTANT-23bSEXTANT-234bSEXTANT-2345",
   "bSEXTANT-23456bSEXTANT-2346bSEXTANT-235bSEXTANT-2356bSEXTANT-236bSEXTANT-24bSEXTANT-245",
   "bSEXTANT-2456bSEXTANT-25bSEXTANT-256bSEXTANT-26bSEXTANT-3bSEXTANT-34bSEXTANT-345bSEXTANT-3456",
   "bSEXTANT-346bSEXTANT-35bSEXTANT-356bSEXTANT-36bSEXTANT-4bSEXTANT-45bSEXTANT-456bSEXTANT-46",
   "bSEXTANT-5bSEXTANT-56bSEXTANT-6aBLOSSOMaBLOWFISHaBLUE BOOKbHEARTaBLUEBERRIESaBOAR",
   "aBOLD EIGHT SPOKED ASTERISKbFIVE SPOKED ASTERISKbGREEK CROSSbSALTIREbSIX SPOKED ASTERISK",
   "bWHITE CIRCLEcSQUAREaBOMaBOMBaBONEaBOOKaBOOKMARKbTABSaBOOKSaBOOMERANGaBOPOMOFO FINAL LETTER G",
   "dHdKdPdTbLETTER AcAHcAIcAINNcAMcANcANGcANNcAUcAUNNcBcBUcCcCHcDcEcEEcEHcEIcENcENGcENNcERcFcGcGH",
   "cGNcGUcGWcHcIcIHcIMcINNcINNNcIRcIUcJcJIcKcKWcLcLHcMcNcNGcNGGcNNcOdWITH DOT ABOVEcOEcOMcONGcONN",
   "cOOcOUcPcQcRcScSHcTcUcUNNcVcXcZcZHcZIcZYaBOTTLE WITH POPPING CORK",
   "aBOTTOM ARC ANTICLOCKWISE ARROWbCURLY BRACKETbHALF BLACK CIRCLEcINTEGRALcLEFT PARENTHESIS",
   "cRIGHT PARENTHESISbLEFT CORNERcCROPcHALF BRACKETbPARENTHESISbRIGHT CORNERcCROPcHALF BRACKET",
   "bSQUARE BRACKETdOVER TOP SQUARE BRACKETbTORTOISE SHELL BRACKETaBOUQUETbOF FLOWERS",
   "aBOW AND ARROWaBOWL OF HYGIEIAbWITH SPOONaBOWLINGaBOWTIEbWITH LEFT HALF BLACKcRIGHT HALF BLACK",
   "aBOX DRAWINGS DOUBLE DOWN AND HORIZONTALfLEFTfRIGHTdHORIZONTALdUP AND HORIZONTALfLEFTfRIGHT",
   "dVERTICALeAND HORIZONTALfLEFTfRIGHTcDOWN DOUBLE AND HORIZONTAL SINGLEfLEFT SINGLEfRIGHT SINGLE",
   "dHEAVY AND HORIZONTAL LIGHTfLEFT LIGHTgUP LIGHTfRIGHT LIGHTgUP LIGHTfUP HORIZONTAL LIGHT",
   "dLIGHT AND HORIZONTAL HEAVYfLEFT HEAVYgUP HEAVYfRIGHT HEAVYgUP HEAVYfUP HORIZONTAL HEAVY",
   "dSINGLE AND HORIZONTAL DOUBLEfLEFT DOUBLEfRIGHT DOUBLEcHEAVY DOUBLE DASH HORIZONTALfVERTICAL",
   "dDOWNeAND HORIZONTALfLEFTfRIGHTdHORIZONTALdLEFTeAND LIGHT RIGHTdQUADRUPLE DASH HORIZONTAL",
   "fVERTICALdRIGHTdTRIPLE DASH HORIZONTALfVERTICALdUPeAND HORIZONTALfLEFTfLIGHT DOWNfRIGHT",
   "dVERTICALeAND HORIZONTALfLEFTfRIGHTcLEFT DOWN HEAVY AND RIGHT UP LIGHT",
   "dHEAVY AND RIGHT DOWN LIGHTgUP LIGHTgVERTICAL LIGHTdLIGHT AND RIGHT DOWN HEAVYgUP HEAVY",
   "gVERTICAL HEAVYdUP HEAVY AND RIGHT DOWN LIGHTcLIGHT ARC DOWN AND LEFTgRIGHTeUP AND LEFTgRIGHT",
   "dDIAGONAL CROSSeDIAMONDeMIDDLE LEFT TO LOWER CENTREjTO MIDDLE RIGHT",
   "hUPPER CENTRE TO MIDDLE RIGHTmTO LOWER CENTREfRIGHT TO LOWER CENTRE",
   "hUPPER CENTRE TO MIDDLE LEFT TO LOWER CENTREeUPPER CENTRE TO MIDDLE LEFT",
   "jAND MIDDLE RIGHT TO LOWER CENTREjTO LOWER CENTREmTO MIDDLE RIGHTiRIGHT",
   "jAND MIDDLE LEFT TO LOWER CENTREjTO LOWER CENTREmTO MIDDLE LEFTfLEFT TO LOWER RIGHT",
   "fRIGHT TO LOWER LEFTdDOUBLE DASH HORIZONTALfVERTICALdDOWNeAND HORIZONTALfLEFTfRIGHTdHORIZONTAL",
   "eWITH VERTICAL STROKEdLEFTeAND HEAVY RIGHTdQUADRUPLE DASH HORIZONTALfVERTICALdRIGHT",
   "dTRIPLE DASH HORIZONTALfVERTICALdUPeAND HEAVY DOWNfHORIZONTALfLEFTfRIGHTdVERTICAL",
   "eAND HORIZONTALfLEFTfRIGHTcRIGHT DOWN HEAVY AND LEFT UP LIGHTdHEAVY AND LEFT DOWN LIGHT",
   "gUP LIGHTgVERTICAL LIGHTdLIGHT AND LEFT DOWN HEAVYgUP HEAVYgVERTICAL HEAVY",
   "dUP HEAVY AND LEFT DOWN LIGHTcUP DOUBLE AND HORIZONTAL SINGLEfLEFT SINGLEfRIGHT SINGLE",
   "dHEAVY AND DOWN HORIZONTAL LIGHTfHORIZONTAL LIGHTfLEFT DOWN LIGHTgLIGHTfRIGHT DOWN LIGHTgLIGHT",
   "dLIGHT AND DOWN HORIZONTAL HEAVYfHORIZONTAL HEAVYfLEFT DOWN HEAVYgHEAVYfRIGHT DOWN HEAVYgHEAVY",
   "dSINGLE AND HORIZONTAL DOUBLEfLEFT DOUBLEfRIGHT DOUBLEcVERTICAL DOUBLE AND HORIZONTAL SINGLE",
   "fLEFT SINGLEfRIGHT SINGLEdHEAVY AND HORIZONTAL LIGHTfLEFT LIGHTfRIGHT LIGHT",
   "dLIGHT AND HORIZONTAL HEAVYfLEFT HEAVYfRIGHT HEAVYdSINGLE AND HORIZONTAL DOUBLEfLEFT DOUBLE",
   "fRIGHT DOUBLEaBOXING GLOVEaBOYaBOYS SYMBOLaBPHaBRAHMI DANDAbDIGIT EIGHTcFIVEcFOURcNINEcONE",
   "cSEVENcSIXcTHREEcTWOcZERObDOUBLE DANDAbLETTER AcAAcAIcAUcBAcBHAcCAcCHAcDAcDDAcDDHAcDHAcEcGA",
   "cGHAcHAcIcIIcJAcJHAcKAcKHAcLAcLLAcMAcNAcNGAcNNAcNYAcOcOLD TAMIL LLAeLLLAeNNNAeRRAeSHORT EfOcPA",
   "cPHAcRAcSAcSHAcSSAcTAcTHAcTTAcTTHAcUcUUcVAcVOCALIC LdLLdRdRRcYAbNUMBER EIGHTcEIGHTYcFIFTYcFIVE",
   "cFORTYcFOURcJOINERcNINEcNINETYcONEdHUNDREDdTHOUSANDcSEVENcSEVENTYcSIXcSIXTYcTENcTHIRTYcTHREE",
   "cTWENTYcTWObPUNCTUATION CRESCENT BARcDOTcDOUBLE DOTcLINEcLOTUSbSIGN ANUSVARAcCANDRABINDU",
   "cJIHVAMULIYAcOLD TAMIL VIRAMAcUPADHMANIYAcVISARGAbVIRAMAbVOWEL SIGN AAdAIdAUdBHATTIPROLU AAdE",
   "dIdIIdOdOLD TAMIL SHORT EgOdUdUUdVOCALIC LeLLeReRRaBRAILLE PATTERN BLANKcDOTS-1cDOTS-12",
   "cDOTS-123cDOTS-1234cDOTS-12345cDOTS-123456cDOTS-1234567cDOTS-12345678cDOTS-1234568cDOTS-123457",
   "cDOTS-1234578cDOTS-123458cDOTS-12346cDOTS-123467cDOTS-1234678cDOTS-123468cDOTS-12347",
   "cDOTS-123478cDOTS-12348cDOTS-1235cDOTS-12356cDOTS-123567cDOTS-1235678cDOTS-123568cDOTS-12357",
   "cDOTS-123578cDOTS-12358cDOTS-1236cDOTS-12367cDOTS-123678cDOTS-12368cDOTS-1237cDOTS-12378",
   "cDOTS-1238cDOTS-124cDOTS-1245cDOTS-12456cDOTS-124567cDOTS-1245678cDOTS-124568cDOTS-12457",
   "cDOTS-124578cDOTS-12458cDOTS-1246cDOTS-12467cDOTS-124678cDOTS-12468cDOTS-1247cDOTS-12478",
   "cDOTS-1248cDOTS-125cDOTS-1256cDOTS-12567cDOTS-125678cDOTS-12568cDOTS-1257cDOTS-12578cDOTS-1258",
   "cDOTS-126cDOTS-1267cDOTS-12678cDOTS-1268cDOTS-127cDOTS-1278cDOTS-128cDOTS-13cDOTS-134",
   "cDOTS-1345cDOTS-13456cDOTS-134567cDOTS-1345678cDOTS-134568cDOTS-13457cDOTS-134578cDOTS-13458",
   "cDOTS-1346cDOTS-13467cDOTS-134678cDOTS-13468cDOTS-1347cDOTS-13478cDOTS-1348cDOTS-135cDOTS-1356",
   "cDOTS-13567cDOTS-135678cDOTS-13568cDOTS-1357cDOTS-13578cDOTS-1358cDOTS-136cDOTS-1367",
   "cDOTS-13678cDOTS-1368cDOTS-137cDOTS-1378cDOTS-138cDOTS-14cDOTS-145cDOTS-1456cDOTS-14567",
   "cDOTS-145678cDOTS-14568cDOTS-1457cDOTS-14578cDOTS-1458cDOTS-146cDOTS-1467cDOTS-14678cDOTS-1468",
   "cDOTS-147cDOTS-1478cDOTS-148cDOTS-15cDOTS-156cDOTS-1567cDOTS-15678cDOTS-1568cDOTS-157",
   "cDOTS-1578cDOTS-158cDOTS-16cDOTS-167cDOTS-1678cDOTS-168cDOTS-17cDOTS-178cDOTS-18cDOTS-2",
   "cDOTS-23cDOTS-234cDOTS-2345cDOTS-23456cDOTS-234567cDOTS-2345678cDOTS-234568cDOTS-23457",
   "cDOTS-234578cDOTS-23458cDOTS-2346cDOTS-23467cDOTS-234678cDOTS-23468cDOTS-2347cDOTS-23478",
   "cDOTS-2348cDOTS-235cDOTS-2356cDOTS-23567cDOTS-235678cDOTS-23568cDOTS-2357cDOTS-23578cDOTS-2358",
   "cDOTS-236cDOTS-2367cDOTS-23678cDOTS-2368cDOTS-237cDOTS-2378cDOTS-238cDOTS-24cDOTS-245",
   "cDOTS-2456cDOTS-24567cDOTS-245678cDOTS-24568cDOTS-2457cDOTS-24578cDOTS-2458cDOTS-246cDOTS-2467",
   "cDOTS-24678cDOTS-2468cDOTS-247cDOTS-2478cDOTS-248cDOTS-25cDOTS-256cDOTS-2567cDOTS-25678",
   "cDOTS-2568cDOTS-257cDOTS-2578cDOTS-258cDOTS-26cDOTS-267cDOTS-2678cDOTS-268cDOTS-27cDOTS-278",
   "cDOTS-28cDOTS-3cDOTS-34cDOTS-345cDOTS-3456cDOTS-34567cDOTS-345678cDOTS-34568cDOTS-3457",
   "cDOTS-34578cDOTS-3458cDOTS-346cDOTS-3467cDOTS-34678cDOTS-3468cDOTS-347cDOTS-3478cDOTS-348",
   "cDOTS-35cDOTS-356cDOTS-3567cDOTS-35678cDOTS-3568cDOTS-357cDOTS-3578cDOTS-358cDOTS-36cDOTS-367",
   "cDOTS-3678cDOTS-368cDOTS-37cDOTS-378cDOTS-38cDOTS-4cDOTS-45cDOTS-456cDOTS-4567cDOTS-45678",
   "cDOTS-4568cDOTS-457cDOTS-4578cDOTS-458cDOTS-46cDOTS-467cDOTS-4678cDOTS-468cDOTS-47cDOTS-478",
   "cDOTS-48cDOTS-5cDOTS-56cDOTS-567cDOTS-5678cDOTS-568cDOTS-57cDOTS-578cDOTS-58cDOTS-6cDOTS-67",
   "cDOTS-678cDOTS-68cDOTS-7cDOTS-78cDOTS-8aBRAINaBREADaBREAK PERMITTED HEREaBREAST-FEEDINGaBREVE",
   "aBRICKaBRIDE WITH VEILaBRIDGE AT NIGHTaBRIEFCASEaBRIEFSaBROCCOLIaBROKEN BAR",
   "bCIRCLE WITH NORTHWEST ARROWbHEARTaBROOMaBROWN HEARTaBSaBUBBLE TEAaBUBBLESaBUCKETaBUG",
   "aBUGINESE END OF SECTIONbLETTER AcBAcCAcDAcGAcHAcJAcKAcLAcMAcMPAcNAcNGAcNGKAcNRAcNYAcNYCAcPA",
   "cRAcSAcTAcVAcYAbPALLAWAbVOWEL SIGN AEdEdIdOdUaBUHID LETTER AcBAcDAcGAcHAcIcKAcLAcMAcNAcNGAcPA",
   "cRAcSAcTAcUcWAcYAbVOWEL SIGN IdUaBUILDING CONSTRUCTIONaBULLETbOPERATORaBULLHORN",
   "bWITH SOUND WAVESaBULLSEYEaBURRITOaBUSbSTOPaBUST IN SILHOUETTEaBUSTS IN SILHOUETTEaBUTTER",
   "aBUTTERFLYaBYTE ORDER MARKaBYZANTINE MUSICAL SYMBOL AGOGI ARGIeARGOTERIeGORGIeGORGOTERIeMESI",
   "eMETRIAePOLI ARGIfGORGIdANATRICHISMAdANTIKENOKYLISMAdANTIKENOMAdAPESO EKFONITIKONeEXO NEOdAPLI",
   "dAPODERMA ARCHAIONeNEOdAPOSTROFOI SYNDESMOS NEOeTELOUS ICHIMATOSdAPOSTROFOSeDIPLIeNEOdAPOTHEMA",
   "dARGONdARGOSYNTHETONdARKTIKO DIeGAeKEeNIePAeVOUeZOdCHAMILIdCHAMILONdCHOREVMA ARCHAIONeNEO",
   "dCHROA KLITONeSPATHIeZYGOSdDASEIAdDIARGONdDIASTOLI APLI MEGALIfMIKRIeDIPLIeTHESEOS",
   "dDIESIS APLI DYO DODEKATAeDIGRAMMOS EX DODEKATAeMONOGRAMMOS TESSERA DODEKATAeTETARTIMORION",
   "eTRIGRAMMOS OKTO DODEKATAeTRITIMORIONdDIFTOGGOS OUdDIGORGONePARESTIGMENON ARISTERA ANOgKATO",
   "fDEXIAdDIGRAMMA GGdDIPLIeARCHAIONdDYOdEKSTREPTONdELAFRONdENARXIS KAI FTHORA VOUdENDOFONON",
   "dEPEGERMAdETERON ARGOSYNTHETONePARAKALESMAdEXO EKFONITIKONdFANEROSIS DIFONIASeMONOFONIAS",
   "eTETRAFONIASdFHTORA SKLIRON CHROMA VASISdFTHORA ARCHAIONfDEYTEROU ICHOUeDIATONIKI DIfKEfNANA",
   "fNI ANOgKATOfPAfZOeENARMONIOS ANTIFONIAeI YFESIS TETARTIMORIONeMALAKON CHROMA DIFONIAS",
   "gMONOFONIASeNAOS ICHOSeNENANOeSKLIRON CHROMA SYNAFIgVASISfDIATONON DIdGENIKI DIESISeYFESIS",
   "dGORGON ARCHAIONeNEO ANOfKATOePARESTIGMENON ARISTERAfDEXIAdGORGOSYNTHETONdGORTHMIKON N APLOUN",
   "fDIPLOUNdGRONTHISMATAdICHADINdIMIDIARGONdIMIFONONdIMIFTHORAdIMIFTHORONdISAKIA TELOUS ICHIMATOS",
   "dISON ARCHAIONeNEOdKATAVA TROMIKONdKATAVASMAdKATHISTIdKENTIMA ARCHAIONeNEO ANOfKATOfMESO",
   "dKENTIMATAeARCHAIONeNEO ANOfKATOfMESOdKLASMAeANOeKATOdKONTEVMAeALLOdKORONISdKOUFISMA",
   "dKRATIMA ALLOeARCHAIONeNEOdKRATIMATAdKRATIMOKOUFISMAdKRATIMOYPORROONdKREMASTIdKYLISMA",
   "dLEIMMA DYO CHRONONeENOS CHRONOUeIMISEOS CHRONOUeTESSARON CHRONONeTRION CHRONONdLEMOIdLYGISMA",
   "dMARTYRIA ALLI DEYTEROS ICHOSfPROTOS ICHOSeDEYTEROS ICHOSeLEGETOS ICHOSePLAGIOS ICHOS",
   "fTETARTOS ICHOSePROTOS ICHOSePROTOVARYS ICHOSeTETARTOS ICHOSfLEGETOS ICHOSeTRIFONIAS",
   "eTRITOS ICHOSeVARYS ICHOSdMIKRON ISONdNANAdOLIGON ARCHAIONeNEOdOMALONdOXEIA DIPLIeEKFONITIKON",
   "eNEOdOXEIAI ARCHAIONdOYRANISMA ARCHAIONeNEOdPARAKALESMA ARCHAIONeNEOdPARAKLITIKIeARCHAIONeNEO",
   "dPARICHONdPELASTONeNEOdPERISPOMENIdPETASMAdPETASTIdPETASTOKOUFISMAdPIASMA ARCHAIONeNEO",
   "dPSIFISTOLYGISMAdPSIFISTONeNEOdPSIFISTOPARAKALESMAdPSIFISTOSYNAGMAdPSILIdPSILONdRAPISMAdREVMA",
   "dSAXIMATAdSEISMAeNEOdSIMANSIS ARSEOSfDISIMOUfTETRASIMOUfTRISIMOUeTHESEOSfDISIMOUfTETRASIMOU",
   "fTRISIMOUdSTAVROSeAPODEXIAdSTIGMAdSTRAGGISMATAdSYNAGMA ARCHAIONeMETA STAVROUeNEOdSYNEVMAdSYRMA",
   "dSYRMATIKIdTELEIAdTESSERAdTETRAPLIdTHEMAeAPLOUNdTHEMATISMOS ESOeEXOdTHES KAI APOTHESdTHITA",
   "dTINAGMAdTRIAdTRIGORGONdTRIPLIdTROMIKOLYGISMAdTROMIKON ALLOeARCHAIONeNEOdTROMIKOPARAKALESMA",
   "dTROMIKOPSIFISTONdTROMIKOSYNAGMAdVAREIA DIPLIeEKFONITIKONeNEOdVAREIAI ARCHAIONdVATHY",
   "dXIRON KLASMAdYFEN ANOeKATOdYFESIS APLI DYO DODEKATAeDIGRAMMOS EX DODEKATA",
   "eMONOGRAMMOS TESSERA DODEKATAeTRIGRAMMOS OKTO DODEKATAeTRITIMORIONdYPOKRISISeDIPLIdYPORROI",
   "dYPSILI"]

end FragmentImports.CharacterName
