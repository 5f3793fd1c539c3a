namespace FragmentImports.CharacterName

def fromL : List String :=
  ["aL B BAR SYMBOLaLAB COATaLABELaLACROSSE STICK AND BALLaLADDERaLADY BEETLEaLANGUAGE TAG",
   "aLAO CANCELLATION MARKbDIGIT EIGHTcFIVEcFOURcNINEcONEcSEVENcSIXcTHREEcTWOcZERObELLIPSISbHO MO",
   "cNObKO LAbLETTER BOcCOcDOcFO FAYdFONdSUNGdTAMcHO SUNGdTAMcKHMU GOdNYOcKHO SUNGdTAMcKOcLOdLING",
   "dLOOTcMOcNGOcNOcNYOcOcPALI BHAdCHAdDDAdDDHAdDHAdGHAdJHAdLLAdNNAdNYAdTTAdTTHAcPHO SUNGdTAMcPO",
   "cROcSANSKRIT SHAdSSAcSO SUNGdTAMcTHO SUNGdTAMcTOcWOcYObNIGGAHITAbSEMIVOWEL SIGN LOdNYO",
   "bSIGN PALI VIRAMAbTONE MAI CATAWAdEKdTHOdTIbVOWEL SIGN AdAAdAIdAMdAYdEdEIdIdIIdMAI KANeKONdOdU",
   "dUUdYdYYaLARGE BLUE CIRCLEcDIAMONDcSQUAREbBROWN CIRCLEcSQUAREbCIRCLEbDOWN TACKbGREEN CIRCLE",
   "cSQUAREbLEFT TRIANGLE OPERATORbONE DOT OVER TWO DOTS PUNCTUATION",
   "cRING OVER TWO RINGS PUNCTUATIONbORANGE CIRCLEcDIAMONDcSQUAREbPURPLE CIRCLEcSQUAREbRED CIRCLE",
   "cSQUAREbTRIPLE VERTICAL BAR OPERATORbTWO DOTS OVER ONE DOT PUNCTUATION",
   "cRINGS OVER ONE RING PUNCTUATIONbUP TACKbYELLOW CIRCLEcSQUAREaLARGER THANcOR EQUAL TO",
   "aLARI SIGNaLAST QUARTER MOONdSYMBOLdWITH FACEaLATIN CAPITAL LETTER AeWITH ACUTEfBREVE",
   "gAND ACUTEhDOT BELOWhGRAVEhHOOK ABOVEhTILDEfCARONfCIRCUMFLEXgAND ACUTEhDOT BELOWhGRAVE",
   "hHOOK ABOVEhTILDEfDIAERESISgAND MACRONfDOT ABOVEhAND MACRONgBELOWfDOUBLE GRAVEfGRAVE",
   "fHOOK ABOVEfINVERTED BREVEfMACRONfOGONEKfRING ABOVEhAND ACUTEgBELOWfSTROKEfTILDEdAAdAE",
   "eWITH ACUTEfMACRONdAFRICAN DdALPHAdANGLICANA WdAOdAUdAVeWITH HORIZONTAL BARdAYdB",
   "eWITH DOT ABOVEgBELOWfFLOURISHfHOOKfLINE BELOWfSTROKEfTOPBARdBETAdBROKEN LdCeWITH ACUTEfBAR",
   "fCARONfCEDILLAgAND ACUTEfCIRCUMFLEXfDOT ABOVEfHOOKfPALATAL HOOKfSTROKEdCHIdCLOSED INSULAR G",
   "dCONdCUATRILLOeWITH COMMAdDeWITH CARONfCEDILLAfCIRCUMFLEX BELOWfDOT ABOVEgBELOWfHOOK",
   "fLINE BELOWfSHORT STROKE OVERLAYfSMALL LETTER ZiWITH CARONfSTROKEfTOPBARdDZeWITH CARONdE",
   "eWITH ACUTEfBREVEfCARONfCEDILLAgAND BREVEfCIRCUMFLEXgAND ACUTEhDOT BELOWhGRAVEhHOOK ABOVE",
   "hTILDEgBELOWfDIAERESISfDOT ABOVEgBELOWfDOUBLE GRAVEfGRAVEfHOOK ABOVEfINVERTED BREVEfMACRON",
   "gAND ACUTEhGRAVEfOGONEKfSTROKEfTILDEgBELOWdEGYPTOLOGICAL AINeALEFdENGdESHdETdETHdEZHeREVERSED",
   "eWITH CARONdFeWITH DOT ABOVEfHOOKfSTROKEdGeWITH ACUTEfBREVEfCARONfCEDILLAfCIRCUMFLEXfDOT ABOVE",
   "fHOOKfMACRONfOBLIQUE STROKEfSTROKEdGAMMAdGHAdGLOTTAL AeIeSTOPeUdHeWITH BREVE BELOWfCARON",
   "fCEDILLAfCIRCUMFLEXfDESCENDERfDIAERESISfDOT ABOVEgBELOWfHOOKfSTROKEdHALF HdHENGdHWAIRdI",
   "eWITH ACUTEfBREVEfCARONfCIRCUMFLEXfDIAERESISgAND ACUTEfDOT ABOVEgBELOWfDOUBLE GRAVEfGRAVE",
   "fHOOK ABOVEfINVERTED BREVEfMACRONfOGONEKfSTROKEfTILDEgBELOWdINSULAR DeFeGeReSeTdIOTAdISdJ",
   "eWITH CIRCUMFLEXfCROSSED-TAILfSTROKEdKeWITH ACUTEfCARONfCEDILLAfDESCENDERfDIAGONAL STROKE",
   "fDOT BELOWfHOOKfLINE BELOWfOBLIQUE STROKEfSTROKEgAND DIAGONAL STROKEdLeWITH ACUTEfBARfBELT",
   "fCARONfCEDILLAfCIRCUMFLEX BELOWfDOT BELOWhAND MACRONfDOUBLE BARfHIGH STROKEfLINE BELOW",
   "fMIDDLE DOTgTILDEfSMALL LETTER JfSTROKEdLJdMeWITH ACUTEfDOT ABOVEgBELOWfHOOKdMIDDLE SCOTS S",
   "dMIDDLE-WELSH LLeVdNeWITH ACUTEfCARONfCEDILLAfCIRCUMFLEX BELOWfDESCENDERfDOT ABOVEgBELOWfGRAVE",
   "fLEFT HOOKfLINE BELOWfLONG RIGHT LEGfOBLIQUE STROKEfSMALL LETTER JfTILDEdNJdOeWITH ACUTEfBREVE",
   "fCARONfCIRCUMFLEXgAND ACUTEhDOT BELOWhGRAVEhHOOK ABOVEhTILDEfDIAERESISgAND MACRONfDOT ABOVE",
   "hAND MACRONgBELOWfDOUBLE ACUTEgGRAVEfGRAVEfHOOK ABOVEfHORNgAND ACUTEhDOT BELOWhGRAVE",
   "hHOOK ABOVEhTILDEfINVERTED BREVEfLONG STROKE OVERLAYfLOOPfMACRONgAND ACUTEhGRAVEfMIDDLE TILDE",
   "fOGONEKgAND MACRONfSTROKEgAND ACUTEfTILDEgAND ACUTEhDIAERESIShMACRONdOIdOLD POLISH OdOMEGAdOO",
   "dOPEN EeOdOUdPeWITH ACUTEfDOT ABOVEfFLOURISHfHOOKfSQUIRREL TAILfSTROKEgTHROUGH DESCENDERdQ",
   "eWITH DIAGONAL STROKEfSTROKE THROUGH DESCENDERdReROTUNDAeWITH ACUTEfCARONfCEDILLAfDOT ABOVE",
   "gBELOWhAND MACRONfDOUBLE GRAVEfINVERTED BREVEfLINE BELOWfOBLIQUE STROKEfSTROKEfTAIL",
   "dREVERSED C WITH DOTeEeHALF HeOPEN EdRUM ROTUNDAdSeWITH ACUTEgAND DOT ABOVEfCARON",
   "gAND DOT ABOVEfCEDILLAfCIRCUMFLEXfCOMMA BELOWfDOT ABOVEgBELOWhAND DOT ABOVEfHOOK",
   "fOBLIQUE STROKEfSHORT STROKE OVERLAYfSWASH TAILdSALTILLOdSCHWAdSCRIPT GdSHARP SdSIGMOID S",
   "dSMALL CAPITAL IeQ WITH HOOK TAILdTeWITH CARONfCEDILLAfCIRCUMFLEX BELOWfCOMMA BELOW",
   "fDIAGONAL STROKEfDOT ABOVEgBELOWfHOOKfLINE BELOWfRETROFLEX HOOKfSTROKEdTHORNeWITH STROKE",
   "gTHROUGH DESCENDERdTONE FIVEeSIXeTWOdTRESILLOdTURNED AeALPHAeHeINSULAR GeKeLeMeTeVdTZdUeBAR",
   "eWITH ACUTEfBREVEfCARONfCIRCUMFLEXgBELOWfDIAERESISgAND ACUTEhCARONhGRAVEhMACRONgBELOW",
   "fDOT BELOWfDOUBLE ACUTEgGRAVEfGRAVEfHOOK ABOVEfHORNgAND ACUTEhDOT BELOWhGRAVEhHOOK ABOVEhTILDE",
   "fINVERTED BREVEfMACRONgAND DIAERESISfOGONEKfRING ABOVEfSTROKEfTILDEgAND ACUTEgBELOWdUPSILONdV",
   "eWITH DIAGONAL STROKEfDOT BELOWfHOOKfTILDEdVENDdVISIGOTHIC ZdVOLAPUK AEeOEeUEdVYdWeWITH ACUTE",
   "fCIRCUMFLEXfDIAERESISfDOT ABOVEgBELOWfGRAVEfHOOKdWYNNdXeWITH DIAERESISfDOT ABOVEdYeWITH ACUTE",
   "fCIRCUMFLEXfDIAERESISfDOT ABOVEgBELOWfGRAVEfHOOKgABOVEfLOOPfMACRONfSTROKEfTILDEdYOGHdZ",
   "eWITH ACUTEfCARONfCIRCUMFLEXfDESCENDERfDOT ABOVEgBELOWfHOOKfLINE BELOWfPALATAL HOOKfSTROKE",
   "fSWASH TAILcLIGATURE IJdOEbCROSSbEPIGRAPHIC LETTER ARCHAIC MdI LONGAdINVERTED MdREVERSED FeP",
   "dSIDEWAYS IbLETTER AINcALVEOLAR CLICKcBIDENTAL PERCUSSIVEcBILABIAL CLICKdPERCUSSIVE",
   "cDENTAL CLICKcGLOTTAL STOPeWITH STROKEcINVERTED GLOTTAL STOPfWITH CURLgSTROKEcLATERAL CLICK",
   "cPHARYNGEAL VOICED FRICATIVEcRETROFLEX CLICKeWITH RETROFLEX HOOKcREVERSED ESH LOOP",
   "dGLOTTAL STOP WITH STROKEcSINOLOGICAL DOTcSMALL CAPITAL AeAEeBeBARRED BeCeDeEeETHeEZHeFeG",
   "fWITH HOOKeHeIeINVERTED ReJeKeLfWITH BELTgSTROKEeMeNeOeOEeOPEN OeOUePeQeRfWITH RIGHT LEG",
   "eREVERSED NfReRUMeSeTeTURNED EfGfKfMfReUeVeWeYeZcSTRETCHED CeWITH CURLcTWO WITH STROKE",
   "cVOICED LARYNGEAL SPIRANTcWYNNcYRbSMALL CAPITAL LETTER I WITH STROKEeU WITH STROKEcLETTER A",
   "eREVERSED-SCHWAeWITH ACUTEfBREVEgAND ACUTEhDOT BELOWhGRAVEhHOOK ABOVEhTILDEfCARONfCIRCUMFLEX",
   "gAND ACUTEhDOT BELOWhGRAVEhHOOK ABOVEhTILDEfDIAERESISgAND MACRONfDOT ABOVEhAND MACRONgBELOW",
   "fDOUBLE GRAVEfGRAVEfHOOK ABOVEfINVERTED BREVEfMACRONfOGONEKfRETROFLEX HOOKfRIGHT HALF RING",
   "fRING ABOVEhAND ACUTEgBELOWfSTROKEfTILDEdAAdAEeWITH ACUTEfMACRONdALPHAeWITH RETROFLEX HOOK",
   "dANGLICANA WdAOdAUdAVeWITH HORIZONTAL BARdAYdBeWITH DOT ABOVEgBELOWfFLOURISHfHOOKfLINE BELOW",
   "fMIDDLE TILDEfPALATAL HOOKfSTROKEfTOPBARdBARRED ALPHAeEeOdBASELINE ESHdBETAdBLACKLETTER EeO",
   "fWITH STROKEdBOTTOM HALF OdBROKEN LdCeWITH ACUTEfBARfCARONfCEDILLAgAND ACUTEfCIRCUMFLEXfCURL",
   "fDOT ABOVEfHOOKfPALATAL HOOKfRETROFLEX HOOKfSTROKEdCHIeWITH LOW LEFT SERIFgRIGHT RING",
   "dCLOSED INSULAR GeOMEGAeOPEN EeREVERSED OPEN EdCONdCUATRILLOeWITH COMMAdDeWITH CARONfCEDILLA",
   "fCIRCUMFLEX BELOWfCURLfDOT ABOVEgBELOWfHOOKgAND TAILfLINE BELOWfMIDDLE TILDEfPALATAL HOOK",
   "fSHORT STROKE OVERLAYfSTROKEfTAILfTOPBARdDB DIGRAPHdDELTAdDEZH DIGRAPHfWITH PALATAL HOOK",
   "gRETROFLEX HOOKdDOTLESS IeJfWITH STROKEhAND HOOKdDOUBLE RfWITH CROSSED-TAILeTHORNeWYNNdDUMdDZ",
   "eDIGRAPHfWITH CURLgRETROFLEX HOOKeWITH CARONdEeWITH ACUTEfBREVEfCARONfCEDILLAgAND BREVE",
   "fCIRCUMFLEXgAND ACUTEhDOT BELOWhGRAVEhHOOK ABOVEhTILDEgBELOWfDIAERESISfDOT ABOVEgBELOW",
   "fDOUBLE GRAVEfFLOURISHfGRAVEfHOOK ABOVEfINVERTED BREVEfMACRONgAND ACUTEhGRAVEfNOTCHfOGONEK",
   "fRETROFLEX HOOKfSTROKEfTILDEgBELOWdEGYPTOLOGICAL AINeALEFdENGeWITH CROSSED-TAILfPALATAL HOOK",
   "dESHeWITH CURLfDOUBLE BARhAND CURLfPALATAL HOOKfRETROFLEX HOOKdETdETHdEZHeREVERSEDeWITH CARON",
   "fCURLfPALATAL HOOKfRETROFLEX HOOKfTAILdFeWITH DOT ABOVEfHOOKfMIDDLE TILDEfPALATAL HOOKfSTROKE",
   "dFENG DIGRAPHfWITH TRILLdGeWITH ACUTEfBREVEfCARONfCEDILLAfCIRCUMFLEXfDOT ABOVEfHOOKfMACRON",
   "fOBLIQUE STROKEfPALATAL HOOKfSTROKEdGAMMAdGHAdGLOTTAL AeIeSTOPeUdHeWITH BREVE BELOWfCARON",
   "fCEDILLAfCIRCUMFLEXfDESCENDERfDIAERESISfDOT ABOVEgBELOWfHOOKfLINE BELOWfPALATAL HOOKfSTROKE",
   "dHALF HdHENGeWITH HOOKdHVdIeWITH ACUTEfBREVEfCARONfCIRCUMFLEXfDIAERESISgAND ACUTEfDOT BELOW",
   "fDOUBLE GRAVEfGRAVEfHOOK ABOVEfINVERTED BREVEfMACRONfOGONEKfRETROFLEX HOOKfSTROKE",
   "gAND RETROFLEX HOOKfTILDEgBELOWdINSULAR DeFeGeReSeTdINVERTED ALPHAeOEdIOTAeWITH STROKE",
   "dIOTIFIED EdISdJeWITH CARONfCIRCUMFLEXfCROSSED-TAILfSTROKEdKeWITH ACUTEfCARONfCEDILLA",
   "fDESCENDERfDIAGONAL STROKEfDOT BELOWfHOOKfLINE BELOWfOBLIQUE STROKEfPALATAL HOOKfSTROKE",
   "gAND DIAGONAL STROKEdKRAdLeWITH ACUTEfBARfBELTgAND PALATAL HOOKfCARONfCEDILLAfCIRCUMFLEX BELOW",
   "fCURLfDOT BELOWhAND MACRONfDOUBLE BARgMIDDLE TILDEfFISHHOOKfHIGH STROKEfINVERTED LAZY S",
   "fLINE BELOWfMIDDLE DOTgRINGgTILDEfPALATAL HOOKfRETROFLEX HOOKhAND BELTfSTROKE",
   "dLAMBDA WITH STROKEdLENIS FdLEZHeWITH RETROFLEX HOOKdLJdLONG SfWITH DIAGONAL STROKEgDOT ABOVE",
   "gHIGH STROKEdLS DIGRAPHdLUMdLZ DIGRAPHdMeWITH ACUTEfCROSSED-TAILfDOT ABOVEgBELOWfHOOK",
   "fMIDDLE TILDEfPALATAL HOOKdMIDDLE SCOTS SdMIDDLE-WELSH LLeVdMUMdNePRECEDED BY APOSTROPHE",
   "eWITH ACUTEfCARONfCEDILLAfCIRCUMFLEX BELOWfCROSSED-TAILfCURLfDESCENDERfDOT ABOVEgBELOWfGRAVE",
   "fLEFT HOOKfLINE BELOWfLONG RIGHT LEGfMIDDLE TILDEfOBLIQUE STROKEfPALATAL HOOKfRETROFLEX HOOK",
   "fTILDEdNJdNUMdOeWITH ACUTEfBREVEfCARONfCIRCUMFLEXgAND ACUTEhDOT BELOWhGRAVEhHOOK ABOVEhTILDE",
   "fDIAERESISgAND MACRONfDOT ABOVEhAND MACRONgBELOWfDOUBLE ACUTEgGRAVEfGRAVEfHOOK ABOVEfHORN",
   "gAND ACUTEhDOT BELOWhGRAVEhHOOK ABOVEhTILDEfINVERTED BREVEfLONG STROKE OVERLAYfLOOP",
   "fLOW RING INSIDEfMACRONgAND ACUTEhGRAVEfOGONEKgAND MACRONfRETROFLEX HOOKfSTROKEgAND ACUTE",
   "fTILDEgAND ACUTEhDIAERESIShMACRONdOIdOLD POLISH OdOMEGAdOOdOPEN EfWITH RETROFLEX HOOKeO",
   "fWITH RETROFLEX HOOKgSTROKEeOEdOUdPeWITH ACUTEfDOT ABOVEfFLOURISHfHOOKfMIDDLE TILDE",
   "fPALATAL HOOKfSQUIRREL TAILfSTROKEgTHROUGH DESCENDERdPHIdQeWITH DIAGONAL STROKEfHOOKgTAIL",
   "fSTROKE THROUGH DESCENDERdQP DIGRAPHdReROTUNDAeWITH ACUTEfCARONfCEDILLAfCROSSED-TAILfDOT ABOVE",
   "gBELOWhAND MACRONfDOUBLE GRAVEfFISHHOOKgAND MIDDLE TILDEhPALATAL HOOKfINVERTED BREVE",
   "fLINE BELOWfLONG LEGfMIDDLE TILDEfOBLIQUE STROKEfPALATAL HOOKfSTROKEfTAILeWITHOUT HANDLE",
   "dRAMS HORNdREVERSED CfWITH DOTeEeENGeHALF HeKeOPEN EgWITH HOOKhRETROFLEX HOOKeR WITH FISHHOOK",
   "eSCRIPT GdRUMeROTUNDAdSeWITH ACUTEgAND DOT ABOVEfCARONgAND DOT ABOVEfCEDILLAfCIRCUMFLEX",
   "fCOMMA BELOWfCURLfDOT ABOVEgBELOWhAND DOT ABOVEfHOOKfMIDDLE TILDEfOBLIQUE STROKEfPALATAL HOOK",
   "fSHORT STROKE OVERLAYfSWASH TAILdSAKHA YATdSALTILLOdSCHWAeWITH HOOKfRETROFLEX HOOKdSCRIPT G",
   "fWITH CROSSED-TAILeRfWITH RINGdSHARP SdSIDEWAYS DIAERESIZED UeOfWITH STROKEeOPEN OeTURNED MeU",
   "dSIGMOID SdSQUAT REVERSED ESHdSTIRRUP RdTeWITH CARONfCEDILLAfCIRCUMFLEX BELOWfCOMMA BELOWfCURL",
   "fDIAERESISfDIAGONAL STROKEfDOT ABOVEgBELOWfHOOKgAND RETROFLEX HOOKfLINE BELOWfMIDDLE TILDE",
   "fPALATAL HOOKfRETROFLEX HOOKfSTROKEdTAILLESS PHIdTC DIGRAPH WITH CURLdTESH DIGRAPH",
   "fWITH PALATAL HOOKgRETROFLEX HOOKdTH WITH STRIKETHROUGHdTHORNeWITH STROKEgTHROUGH DESCENDER",
   "dTONE FIVEeSIXeTWOdTOP HALF OdTRESILLOdTS DIGRAPHfWITH RETROFLEX HOOKdTUMdTURNED AeAEeALPHA",
   "eDELTAeEeGeHfWITH FISHHOOKhAND TAILeIeINSULAR GeKeLeMfWITH LONG LEGeO OPEN-OgWITH STROKEeOE",
   "fWITH HORIZONTAL STROKEgSTROKEeOPEN EeRfWITH HOOKgLONG LEGiAND RETROFLEX HOOKgMIDDLE TILDE",
   "gPALATAL HOOKgTAILeTfWITH CURLeUIeVeWeYfWITH BELTdTZdUeBARfWITH SHORT RIGHT LEGeWITH ACUTE",
   "fBREVEfCARONfCIRCUMFLEXgBELOWfDIAERESISgAND ACUTEhCARONhGRAVEhMACRONgBELOWfDOT BELOW",
   "fDOUBLE ACUTEgGRAVEfGRAVEfHOOK ABOVEfHORNgAND ACUTEhDOT BELOWhGRAVEhHOOK ABOVEhTILDE",
   "fINVERTED BREVEfLEFT HOOKfMACRONgAND DIAERESISfOGONEKfRETROFLEX HOOKfRING ABOVE",
   "fSHORT RIGHT LEGfSTROKEfTILDEgAND ACUTEgBELOWdUEdUIdUMdUOdUPSILONeWITH STROKEdVeWITH CURL",
   "fDIAGONAL STROKEfDOT BELOWfHOOKfPALATAL HOOKfRIGHT HOOKfTILDEdVENDdVISIGOTHIC ZdVOLAPUK AEeOE",
   "eUEdVYdWeWITH ACUTEfCIRCUMFLEXfDIAERESISfDOT ABOVEgBELOWfGRAVEfHOOKfRING ABOVEdX",
   "eWITH DIAERESISfDOT ABOVEfLONG LEFT LEGiAND LOW RIGHT RINGiWITH SERIFfLOW RIGHT RING",
   "fPALATAL HOOKdYeWITH ACUTEfCIRCUMFLEXfDIAERESISfDOT ABOVEgBELOWfGRAVEfHOOKgABOVEfLOOPfMACRON",
   "fRING ABOVEfSHORT RIGHT LEGfSTROKEfTILDEdYOGHdZeWITH ACUTEfCARONfCIRCUMFLEXfCURLfDESCENDER",
   "fDOT ABOVEgBELOWfHOOKfLINE BELOWfMIDDLE TILDEfPALATAL HOOKfRETROFLEX HOOKfSTROKEfSWASH TAIL",
   "cLIGATURE FFdFFIdFFLdFIdFLdIJdLONG S TdOEdSTbSUBSCRIPT SMALL LETTER AeEeHeIeJeKeLeMeNeOePeReS",
   "eSCHWAeTeUeVeXaLEAF FLUTTERING IN WINDaLEAFY GREENaLEDGER",
   "aLEFT AND LOWER AND RIGHT TRIANGULAR THREE QUARTERS BLOCKdONE EIGHTH BLOCK",
   "cRIGHT DOUBLE TURNSTILEdTACKdTRIANGULAR HALF BLOCK",
   "cUPPER AND RIGHT TRIANGULAR THREE QUARTERS BLOCKdONE EIGHTH BLOCKbANGER BUBBLEbANGLE BRACKET",
   "dWITH DOTbARC LESS-THAN BRACKETbARROW WITH CIRCLED PLUSdSMALL CIRCLE",
   "bBARB DOWN RIGHT BARB DOWN HARPOONfUP HARPOONcUP RIGHT BARB DOWN HARPOONfUP HARPOON",
   "bBLACK LENTICULAR BRACKETcTORTOISE SHELL BRACKETbCEILINGbCLOSED ENTRYbCORNER BRACKET",
   "bCURLY BRACKETdLOWER HOOKdMIDDLE PIECEdUPPER HOOKbDOTTED SUBSTITUTION BRACKET",
   "bDOUBLE ANGLE BRACKETcPARENTHESIScQUOTATION MARKcWIGGLY FENCEbFISH TAILbFIVE EIGHTHS BLOCK",
   "bFLOORbHALF BLACK CIRCLEdSTARcBLOCKcCIRCLEdWITH DOTeFOUR DOTSeTHREE DOTSeTWO DOTScFOLDER",
   "cINVERSE MEDIUM SHADE AND RIGHT HALF BLOCKcMEDIUM SHADEcRUNNING MANbHAND TELEPHONE RECEIVER",
   "bLOW PARAPHRASE BRACKETbLUGGAGEbMULTIMAPbNORMAL FACTOR SEMIDIRECT PRODUCTbONE EIGHTH BLOCK",
   "cQUARTER BLOCKbOUTER JOINbPARENTHESIScEXTENSIONcLOWER HOOKcUPPER HOOKbRAISED OMISSION BRACKET",
   "bRIGHT ARROWdTHROUGH SMALL CIRCLEdWITH DOUBLE VERTICAL STROKEeSTROKEeVERTICAL STROKE",
   "cBLACK ARROWcDOUBLE ARROWeWITH STROKEfVERTICAL STROKEcOPEN-HEADED ARROWcSANS-SERIF ARROW",
   "cTRIANGLE-HEADED ARROWcWAVE ARROWcWHITE ARROWbS-SHAPED BAG DELIMITERbSEMIDIRECT PRODUCT",
   "bSEVEN EIGHTHS BLOCKbSIDEWAYS U BRACKETbSINGLE QUOTATION MARKbSPEECH BUBBLEbSQUARE BRACKET",
   "dEXTENSIONdLOWER CORNERdUPPER CORNERdWITH DOUBLE STROKEeQUILLeSTROKEeTICK IN BOTTOM CORNER",
   "gTOP CORNEReUNDERBARbSUBSTITUTION BRACKETbTACKbTHIRD WHITE RIGHT POINTING INDEXbTHOUGHT BUBBLE",
   "bTHREE EIGHTHS BLOCKcQUARTERS BLOCKbTORTOISE SHELL BRACKETbTRANSPOSITION BRACKET",
   "bTRIANGLE BESIDE VERTICAL BARbTRIANGULAR ONE QUARTER BLOCKbVERTICAL BAR WITH QUILLcBOX LINE",
   "bWHITE CORNER BRACKETcCURLY BRACKETcLENTICULAR BRACKETcPARENTHESIScSQUARE BRACKET",
   "cTORTOISE SHELL BRACKETbWIGGLY FENCEbWRITING HANDaLEFT-FACING ARMENIAN ETERNITY SIGNbFIST",
   "bSVASTI SIGNdWITH DOTSaLEFT-HANDED INTERLACED PENTAGRAMaLEFT-POINTING ANGLE BRACKET",
   "bCURVED ANGLE BRACKETbDOUBLE ANGLE QUOTATION MARKbMAGNIFYING GLASS",
   "aLEFT-SHADED WHITE RIGHTWARDS ARROWaLEFT-SIDE ARC ANTICLOCKWISE ARROWaLEFT-TO-RIGHT EMBEDDING",
   "bISOLATEbMARKbOVERRIDEaLEFTWARDS ARROWcABOVE ALMOST EQUAL TOdREVERSE ALMOST EQUAL TO",
   "eTILDE OPERATORdSHORT RIGHTWARDS ARROWdTILDE OPERATORcAND UPPER AND LOWER ONE EIGHTH BLOCK",
   "cFROM BAReTO BLACK DIAMONDcOVER RIGHTWARDS ARROWcTHROUGH LESS-THANdSUBSETdXcTO BAR",
   "eOVER RIGHTWARDS ARROW TO BARdBLACK DIAMONDcWITH DOTTED STEMdDOUBLE VERTICAL STROKE",
   "dEQUILATERAL ARROWHEADdHOOKdLARGE TRIANGLE ARROWHEADdLOOPdMEDIUM TRIANGLE ARROWHEAD",
   "dNOTCHED TAILdPLUS BELOWdSMALL EQUILATERAL ARROWHEADeTRIANGLE ARROWHEADdSTROKEdTAIL",
   "eWITH DOUBLE VERTICAL STROKEfVERTICAL STROKEdTIP DOWNWARDSeUPWARDSdVERTICAL STROKEbARROW-TAIL",
   "bBACK-TILTED SHADOWED WHITE ARROWbBLACK ARROWcCIRCLED WHITE ARROWbBOTTOM-SHADED WHITE ARROW",
   "bCOMPRESSED ARROWbDASHED ARROWbDOUBLE ARROWdFROM BARdWITH STROKEeVERTICAL STROKEcARROW-TAIL",
   "cDASH ARROWbFINGER-POST ARROWbFRONT-TILTED SHADOWED WHITE ARROWbHAND",
   "bHARPOON OVER RIGHTWARDS HARPOONcWITH BARB DOWN ABOVE RIGHTWARDS HARPOON WITH BARB DOWN",
   "fBELOW LONG DASHfFROM BARfTO BAReDOWNWARDSeUP ABOVE LEFTWARDS HARPOON WITH BARB DOWNgLONG DASH",
   "gRIGHTWARDS HARPOON WITH BARB UPfFROM BARfTO BAReUPWARDSbHEAVY ARROWcCOMPRESSED ARROW",
   "bLEFT-SHADED WHITE ARROWbOPEN-HEADED ARROWbPAIRED ARROWSbQUADRUPLE ARROW",
   "bRIGHT-SHADED WHITE ARROWbROCKETbSANS-SERIF ARROWbSQUARED ARROWbSQUIGGLE ARROW",
   "bTOP SHADED WHITE ARROWbTRIANGLE ARROWHEADbTRIANGLE-HEADED ARROW",
   "dOVER RIGHTWARDS TRIANGLE-HEADED ARROWdTO BARdWITH BOLD SHAFTeDOUBLE HORIZONTAL STROKE",
   "fVERTICAL STROKEeHEAVY SHAFTeLONG TIP DOWNWARDSgUPWARDSeMEDIUM SHAFTeNARROW SHAFT",
   "eVERY HEAVY SHAFTcDASHED ARROWcPAIRED ARROWSbTRIPLE ARROWcDASH ARROWbTWO HEADED ARROW",
   "bTWO-HEADED ARROW FROM BARdWITH DOUBLE VERTICAL STROKEeTAILfWITH DOUBLE VERTICAL STROKE",
   "gVERTICAL STROKEeTRIANGLE ARROWHEADSeVERTICAL STROKEcTRIPLE DASH ARROWbWAVE ARROWbWHITE ARROW",
   "dWITHIN TRIANGLE ARROWHEADaLEGaLEMONaLEOaLEOPARDaLEPCHA CONSONANT SIGN KdKANGdLdMdNdNYIN-DOdP",
   "dRdTbDIGIT EIGHTcFIVEcFOURcNINEcONEcSEVENcSIXcTHREEcTWOcZERObLETTER AcBAcBLAcCAcCHAcDAcDDAcDZA",
   "cFAcFLAcGAcGLAcHAcHLAcJAcKAcKHAcKLAcLAcMAcMLAcNAcNGAcNYAcPAcPHAcPLAcRAcSAcSHAcTAcTHAcTSAcTSHA",
   "cTTAcTTHAcVAcWAcYAbPUNCTUATION CER-WAcNYET THYOOM TA-ROLcTA-ROLcTSHOOKdCER-WAbSIGN NUKTAcRAN",
   "bSUBJOINED LETTER RAdYAbVOWEL SIGN AAdEdIdOdOOdUdUU",
   "aLESS-THAN ABOVE DOUBLE-LINE EQUAL ABOVE GREATER-THANcGREATER-THAN ABOVE DOUBLE-LINE EQUAL",
   "cLEFTWARDS ARROWcSIMILAR ABOVE GREATER-THANdOR EQUAL",
   "cSLANTED EQUAL ABOVE GREATER-THAN ABOVE SLANTED EQUALbAND NOT APPROXIMATE",
   "cSINGLE-LINE NOT EQUAL TObBUT NOT EQUAL TOdEQUIVALENT TObCLOSED BY CURVEeABOVE SLANTED EQUAL",
   "bEQUAL TO OR GREATER-THANbOR APPROXIMATEcEQUAL TOcEQUIVALENT TOcGREATER-THANcSLANTED EQUAL TO",
   "fWITH DOT ABOVEiRIGHThINSIDEbOVER EQUAL TObSIGNbWITH CIRCLE INSIDEcDOTcQUESTION MARK ABOVE",
   "aLEVEL SLIDERaLFaLIBRAaLIGATURE OPEN ET ORNAMENTaLIGHT CHECK MARKbEIGHT SPOKED ASTERISK",
   "bFIVE POINTED BLACK STARcSPOKED ASTERISKbFOUR POINTED BLACK CUSPeSTARbGREEK CROSS",
   "bLEFT TORTOISE SHELL BRACKET ORNAMENTbRAILbRIGHT TORTOISE SHELL BRACKET ORNAMENTbSALTIREbSHADE",
   "bSIX SPOKED ASTERISKbTHREE POINTED BLACK STARbTWELVE POINTED BLACK STARbVERTICAL BAR",
   "bWHITE SQUAREaLIGHTNINGbMOODcBUBBLEaLIMBU DIGIT EIGHTcFIVEcFOURcNINEcONEcSEVENcSIXcTHREEcTWO",
   "cZERObEXCLAMATION MARKbLETTER BAcBHAcCAcCHAcDAcDHAcGAcGHAcGYANcHAcJAcJHAcKAcKHAcLAcMAcNAcNGA",
   "cPAcPHAcRAcSAcSHAcSSAcTAcTHAcTRAcWAcYAcYANbQUESTION MARKbSIGN KEMPHRENGcLOOcMUKPHRENGcSA-I",
   "bSMALL LETTER ANUSVARAdKAdLAdMAdNAdNGAdPAdRAdTAbSUBJOINED LETTER RAdWAdYAbVOWEL SIGN AdAIdAUdE",
   "dEEdIdOdOOdUbVOWEL-CARRIER LETTERaLIMITED LIABILITY SIGNaLINE FEED",
   "bINTEGRATION NOT INCLUDING THE POLEcWITH RECTANGULAR PATH AROUND POLE",
   "dSEMICIRCULAR PATH AROUND POLEbSEPARATORbTABULATIONcSETaLINEAR A SIGN A028BdA100-102dA120B",
   "dA131CdA301dA302dA303dA304dA305dA306dA307dA308dA309AdA309BdA309CdA310dA311dA312dA313AdA313B",
   "dA313CdA314dA315dA316dA317dA318dA319dA320dA321dA322dA323dA324dA325dA326dA327dA328dA329dA330",
   "dA331dA332dA333dA334dA335dA336dA337dA338dA339dA340dA341dA342dA343dA344dA345dA346dA347dA348",
   "dA349dA350dA351dA352dA353dA354dA355dA356dA357dA358dA359dA360dA361dA362dA363dA364dA365dA366",
   "dA367dA368dA369dA370dA371dA400-VASdA401-VASdA402-VASdA403-VASdA404-VASdA405-VASdA406-VAS",
   "dA407-VASdA408-VASdA409-VASdA410-VASdA411-VASdA412-VASdA413-VASdA414-VASdA415-VASdA416-VAS",
   "dA417-VASdA418-VASdA501dA502dA503dA504dA505dA506dA508dA509dA510dA511dA512dA513dA515dA516dA520",
   "dA521dA523dA524dA525dA526dA527dA528dA529dA530dA531dA532dA534dA535dA536dA537dA538dA539dA540",
   "dA541dA542dA545dA547dA548dA549dA550dA551dA552dA553dA554dA555dA556dA557dA559dA563dA564dA565",
   "dA566dA568dA569dA570dA571dA572dA573dA574dA575dA576dA577dA578dA579dA580dA581dA582dA583dA584",
   "dA585dA586dA587dA588dA589dA591dA592dA594dA595dA596dA598dA600dA601dA602dA603dA604dA606dA608",
   "dA609dA610dA611dA612dA613dA614dA615dA616dA617dA618dA619dA620dA621dA622dA623dA624dA626dA627",
   "dA628dA629dA634dA637dA638dA640dA642dA643dA644dA645dA646dA648dA649dA651dA652dA653dA654dA655",
   "dA656dA657dA658dA659dA660dA661dA662dA663dA664dA701 AdA702 BdA703 DdA704 EdA705 FdA706 HdA707 J",
   "dA708 KdA709 LdA709-2 L2dA709-3 L3dA709-4 L4dA709-6 L6dA710 WdA711 XdA712 YdA713 OMEGA",
   "dA714 ABBdA715 BBdA717 DDdA726 EYYYdA732 JEdA800dA801dA802dA803dA804dA805dA806dA807dAB001",
   "dAB002dAB003dAB004dAB005dAB006dAB007dAB008dAB009dAB010dAB011dAB013dAB016dAB017dAB020dAB021",
   "dAB021FdAB021MdAB022dAB022FdAB022MdAB023dAB023MdAB024dAB026dAB027dAB028dAB029dAB030dAB031",
   "dAB034dAB037dAB038dAB039dAB040dAB041dAB044dAB045dAB046dAB047dAB048dAB049dAB050dAB051dAB053",
   "dAB054dAB055dAB056dAB057dAB058dAB059dAB060dAB061dAB065dAB066dAB067dAB069dAB070dAB073dAB074",
   "dAB076dAB077dAB078dAB079dAB080dAB081dAB082dAB085dAB086dAB087dAB118dAB120dAB122dAB123dAB131A",
   "dAB131BdAB164dAB171dAB180dAB188dAB191bB IDEOGRAM B100 MANdB102 WOMANdB104 DEERdB105 EQUID",
   "dB105F MAREdB105M STALLIONdB106F EWEdB106M RAMdB107F SHE-GOATdB107M HE-GOATdB108F SOW",
   "dB108M BOARdB109F COWdB109M BULLdB120 WHEATdB121 BARLEYdB122 OLIVEdB123 SPICEdB125 CYPERUS",
   "dB130 OILdB131 WINEdB132dB140 BRONZEdB141 GOLDdB142dB145 WOOLdB146dB150dB151 HORNdB152dB153",
   "dB154dB157dB158dB159 CLOTHdB160dB161dB162 GARMENTdB163 ARMOURdB164dB165dB166dB167dB168dB169",
   "dB170dB171dB172dB173 MONTHdB174dB176 TREEdB177dB178dB179dB180dB181dB182dB183dB184dB185dB189",
   "dB190dB191 HELMETdB220 FOOTSTOOLdB225 BATHTUBdB230 SPEARdB231 ARROWdB232dB233 SWORDdB234dB236",
   "dB240 WHEELED CHARIOTdB241 CHARIOTdB242 CHARIOT FRAMEdB243 WHEELdB245dB246dB248dB249dB251dB252",
   "dB253dB254 DARTdB255dB256dB257dB258dB259dVESSEL B155eB200eB201eB202eB203eB204eB205eB206eB207",
   "eB208eB209eB210eB211eB212eB213eB214eB215eB216eB217eB218eB219eB221eB222eB226eB227eB228eB229",
   "eB250eB305cMONOGRAM B127 KAPOdB128 KANAKOdB133 AREPAdB135 MERIdB156 TURO2dB247 DIPTE",
   "cSYLLABLE B001 DAdB002 ROdB003 PAdB004 TEdB005 TOdB006 NAdB007 DIdB008 AdB009 SEdB010 U",
   "dB011 POdB012 SOdB013 MEdB014 DOdB015 MOdB016 QAdB017 ZAdB020 ZOdB021 QIdB023 MUdB024 NE",
   "dB025 A2dB026 RUdB027 REdB028 IdB029 PU2dB030 NIdB031 SAdB032 QOdB033 RA3dB036 JOdB037 TI",
   "dB038 EdB039 PIdB040 WIdB041 SIdB042 WOdB043 A3dB044 KEdB045 DEdB046 JEdB048 NWAdB050 PU",
   "dB051 DUdB052 NOdB053 RIdB054 WAdB055 NUdB057 JAdB058 SUdB059 TAdB060 RAdB061 OdB062 PTE",
   "dB065 JUdB066 TA2dB067 KIdB068 RO2dB069 TUdB070 KOdB071 DWEdB072 PEdB073 MIdB074 ZEdB075 WE",
   "dB076 RA2dB077 KAdB078 QEdB080 MAdB081 KUdB085 AUdB087 TWEdB090 DWOdB091 TWOcSYMBOL B018dB019",
   "dB022dB034dB047dB049dB056dB063dB064dB079dB082dB083dB086dB089aLINK SYMBOLaLINKED PAPERCLIPS",
   "aLION FACEaLIPSaLIPSTICKaLIRA SIGNaLISU LETTER AcAEcBAcCAcCHAcDAcDZAcEcEUcFAcGAcGHAcHAcHHAcI",
   "cJAcKAcKHAcLAcMAcNAcNGAcOcOEcPAcPHAcSAcSHAcTAcTHAcTONE MYA BOeCYAeJEUeNAeTIdNA POcTSAcTSHAcU",
   "cUEcUHcWAcXAcYAcYHAcZAcZHAbPUNCTUATION COMMAcFULL STOPaLIVRE TOURNOIS SIGNaLIZARDaLLAMA",
   "aLOBSTERaLOCKbWITH INK PENaLOCKING-SHIFT ONEbZEROaLOGICAL ANDcWITH DOT ABOVEdDOUBLE OVERBAR",
   "eUNDERBARdHORIZONTAL DASHdMIDDLE STEMdUNDERBARbORcOVERLAPPING LOGICAL ANDcWITH DOT ABOVE",
   "dDOUBLE OVERBAReUNDERBARdHORIZONTAL DASHdMIDDLE STEMaLOLLIPOP",
   "aLONG DASH FROM LEFT MEMBER OF DOUBLE VERTICALbDIVISIONbDRUMbLEFT RIGHT ARROWdDOUBLE ARROW",
   "cTACKbLEFTWARDS ARROWdFROM BARcDOUBLE ARROWeFROM BARcSQUIGGLE ARROWbRIGHT TACK",
   "bRIGHTWARDS ARROWdFROM BARcDOUBLE ARROWeFROM BARcSQUIGGLE ARROWaLOTION BOTTLEaLOTUS",
   "aLOUDLY CRYING FACEaLOVE HOTELbLETTERaLOW ASTERISKbBATTERYbBRIGHTNESS SYMBOL",
   "bDOUBLE PRIME QUOTATION MARKbKAVYKAcWITH DOTbLINEaLOWER BLADE SCISSORSbFIVE EIGHTHS BLOCK",
   "bHALF BLOCKcCIRCLEcINVERSE WHITE CIRCLEcMEDIUM SHADEbLEFT BALLPOINT PEN",
   "cBLOCK DIAGONAL LOWER MIDDLE LEFT TO LOWER CENTREjRIGHTeUPPER CENTRE TO LOWER MIDDLE RIGHT",
   "iRIGHThUPPER MIDDLE RIGHTfLEFT TO LOWER CENTREiMIDDLE RIGHThUPPER MIDDLE RIGHT",
   "fMIDDLE LEFT TO LOWER CENTREjMIDDLE RIGHTjRIGHTcCRAYONcFOUNTAIN PENcPAINTBRUSHcPENCIL",
   "cQUADRANT CIRCULAR ARCcSEMICIRCULAR ANTICLOCKWISE ARROWcTRIANGLEcTRIANGULAR MEDIUM SHADE",
   "bONE EIGHTH BLOCKcQUARTER BLOCKbRIGHT BLOCK DIAGONAL LOWER CENTRE TO LOWER MIDDLE RIGHT",
   "hUPPER MIDDLE RIGHTiRIGHTfLEFT TO LOWER MIDDLE RIGHThUPPER CENTREiMIDDLE RIGHT",
   "fMIDDLE LEFT TO UPPER CENTREjMIDDLE RIGHTjRIGHTeUPPER MIDDLE LEFT TO UPPER CENTREjRIGHT",
   "cCORNER WITH DOTcDROP-SHADOWED WHITE SQUAREcPENCILcQUADRANT CIRCULAR ARC",
   "cSEMICIRCULAR CLOCKWISE ARROWcSHADOWED WHITE CIRCLEeSQUAREcTRIANGLEcTRIANGULAR MEDIUM SHADE",
   "bSEVEN EIGHTHS BLOCKbTHREE EIGHTHS BLOCKcQUARTERS BLOCKbTRIANGULAR ONE QUARTER BLOCKaLOZENGE",
   "bDIVIDED BY HORIZONTAL RULEaLREaLRIaLRMaLROaLUGGAGEaLUNGSaLYCIAN LETTER AcANcBcBHcDcEcENcGcHcI",
   "cJcKcKKcLcMcMMcNcNNcPcQcRcScTcTHcTTcUcWcXcZaLYDIAN LETTER AcANcBcCcDcEcENcFcGcIcKcLcLYcMcNcNN",
   "cOcQcRcScSScTcTTcUcVcYbTRIANGULAR MARKaLYING FACE"]

end FragmentImports.CharacterName
