/-!
Names of characters, here those that start with A. A small letter opens an entry and tells how
many words the entry shares with the one before it, none for `a`; its own words follow.
-/

namespace FragmentImports.CharacterName

def fromA : List String :=
  ["aABACUSaAC CURRENTaACCORDIONaACCOUNT OFaACKaACKNOWLEDGEaACTIVATE ARABIC FORM SHAPING",
   "bSYMMETRIC SWAPPINGaACUTE ACCENTbANGLEaADDRESSED TO THE SUBJECTaADHESIVE BANDAGEaADI SHAKTI",
   "aADLAM ALIF LENGTHENERbCAPITAL LETTER ALIFdBAdBHEdCHIdDAALIdDHAdEdFAdGAdGBEdHAdIdJIIMdKAFdKHA",
   "dKPOdLAAMdMIIMdNHAdNUNdNYAdOdPEdQAAFdRAdSHAdSINNYIIYHEdTUdUdVAdWAWdYAdYHEdZAL",
   "bCONSONANT MODIFIERbDIGIT EIGHTcFIVEcFOURcNINEcONEcSEVENcSIXcTHREEcTWOcZERO",
   "bGEMINATE CONSONANT MODIFIERbGEMINATION MARKbHAMZAbINITIAL EXCLAMATION MARKcQUESTION MARK",
   "bNASALIZATION MARKbNUKTAbSMALL LETTER ALIFdBAdBHEdCHIdDAALIdDHAdEdFAdGAdGBEdHAdIdJIIMdKAFdKHA",
   "dKPOdLAAMdMIIMdNHAdNUNdNYAdOdPEdQAAFdRAdSHAdSINNYIIYHEdTUdUdVAdWAWdYAdYHEdZALbVOWEL LENGTHENER",
   "aADMETOSaADMISSION TICKETSaADULTaAEGEAN CHECK MARKbDRY MEASURE FIRST SUBUNIT",
   "bLIQUID MEASURE FIRST SUBUNITbMEASURE SECOND SUBUNITcTHIRD SUBUNITbNUMBER EIGHTdHUNDRED",
   "dTHOUSANDcEIGHTYdTHOUSANDcFIFTYdTHOUSANDcFIVEdHUNDREDdTHOUSANDcFORTYdTHOUSANDcFOURdHUNDRED",
   "dTHOUSANDcNINEdHUNDREDdTHOUSANDcNINETYdTHOUSANDcONEdHUNDREDdTHOUSANDcSEVENdHUNDREDdTHOUSAND",
   "cSEVENTYdTHOUSANDcSIXdHUNDREDdTHOUSANDcSIXTYdTHOUSANDcTENdTHOUSANDcTHIRTYdTHOUSANDcTHREE",
   "dHUNDREDdTHOUSANDcTWENTYdTHOUSANDcTWOdHUNDREDdTHOUSANDbWEIGHT BASE UNITcFIRST SUBUNIT",
   "cFOURTH SUBUNITcSECOND SUBUNITcTHIRD SUBUNITbWORD SEPARATOR DOTdLINEaAERIAL TRAMWAY",
   "aAFGHANI SIGNaAHOM CONSONANT SIGN MEDIAL LAeLIGATING RAeRAbDIGIT EIGHTcFIVEcFOURcNINEcONE",
   "cSEVENcSIXcTHREEcTWOcZERObLETTER AcALTERNATE BAdGAdTAcBAcBHAcCAcCHAcDAcDDAcDDHAcDHAcGAcGHAcHA",
   "cJAcJHAcKAcKHAcLAcLLAcMAcNAcNGAcNNAcNYAcPAcPHAcRAcSAcTAcTHAcTTAcTTHAbNUMBER TENcTWENTY",
   "bSIGN KILLERcRULAIcSECTIONcSMALL SECTIONbSYMBOL VIbVOWEL SIGN AdAAdAIdAMdAWdEdIdIIdOdUdUU",
   "aAIRPLANEbARRIVINGbDEPARTUREaAKTIESELSKABaALARM CLOCKaALCHEMICAL SYMBOL FOR AIRdALEMBICdALKALI",
   "dALKALI-2dALUMdAMALGAMdANTIMONY OREdAQUA REGIAeREGIA-2eVITAEeVITAE-2dAQUAFORTISdARSENICdASHES",
   "dAURIPIGMENTdBATH OF MARYfVAPOURSdBISMUTH OREdBLACK SULFURdBORAXdBORAX-2dBORAX-3dBRICK",
   "dCADUCEUSdCALXdCAPUT MORTUUMdCINNABARdCOPPER ANTIMONIATEeOREdCROCUS OF COPPERfCOPPER-2fIRON",
   "dCRUCIBLEdCRUCIBLE-2dCRUCIBLE-3dCRUCIBLE-4dCRUCIBLE-5dDAY-NIGHTdDISSOLVEdDISSOLVE-2dDISTILL",
   "dEARTHdFIREdGOLDdGUMdHALF DRAMeOUNCEdHORSE DUNGdHOURdIRON OREeORE-2dIRON-COPPER OREdLEAD ORE",
   "dLODESTONEdMARCASITEdMERCURY SUBLIMATEeSUBLIMATE-2eSUBLIMATE-3dMONTHdNIGHTdNITREdOIL",
   "dPHILOSOPHERS SULFURdPOT ASHESdPOWDERdPOWDERED BRICKdPRECIPITATEdPURIFYdPUTREFACTION",
   "dQUICK LIMEdQUINTESSENCEdREALGARdREALGAR-2dREGULUSeOF ANTIMONYfANTIMONY-2fIRONdREGULUS-2",
   "dREGULUS-3dREGULUS-4dRETORTdROCK SALTeSALT-2dSAL-AMMONIACdSALTeOF ANTIMONYfCOPPER ANTIMONIATE",
   "dSCEPTER OF JOVEdSILVERdSOAPdSPIRITdSTARRED TRIDENTdSTRATUM SUPER STRATUMfSTRATUM-2",
   "dSUBLIMATE OF ANTIMONYfCOPPERfSALT OF ANTIMONYhCOPPERdSUBLIMATIONdSULFURdTARTARdTARTAR-2",
   "dTIN OREdTINCTUREdTRIDENTdTUTTYdURINEdVERDIGRISdVINEGAReOF ANTIMONYdVINEGAR-2dVINEGAR-3",
   "dVITRIOLdVITRIOL-2dWATERdWAXaALEF SYMBOLaALEMBICaALERTaALIEN MONSTERaALL AROUND-PROFILE",
   "bEQUAL TOaALMaALMOST EQUAL OR EQUAL TOcTOdWITH CIRCUMFLEX ACCENT",
   "aALTERNATE ONE-WAY LEFT WAY TRAFFICaALTERNATIVE KEY SYMBOLaAMALGAMATION OR COPRODUCTaAMBULANCE",
   "aAMERICAN FOOTBALLaAMPERSANDaAMPHORAaANATOLIAN HIEROGLYPH A001cA002cA003cA004cA005cA006cA007",
   "cA008cA009cA010cA010AcA011cA012cA013cA014cA015cA016cA017cA018cA019cA020cA021cA022cA023cA024",
   "cA025cA026cA026AcA027cA028cA029cA030cA031cA032cA033cA034cA035cA036cA037cA038cA039cA039AcA040",
   "cA041cA041AcA042cA043cA044cA045cA045AcA046cA046AcA046BcA047cA048cA049cA050cA051cA052cA053cA054",
   "cA055cA056cA057cA058cA059cA060cA061cA062cA063cA064cA065cA066cA066AcA066BcA066CcA067cA068cA069",
   "cA070cA071cA072cA073cA074cA075cA076cA077cA078cA079cA080cA081cA082cA083cA084cA085cA086cA087",
   "cA088cA089cA090cA091cA092cA093cA094cA095cA096cA097cA097AcA098cA098AcA099cA100cA100AcA101cA101A",
   "cA102cA102AcA103cA104cA104AcA104BcA104CcA105cA105AcA105BcA106cA107cA107AcA107BcA107CcA108cA109",
   "cA110cA110AcA110BcA111cA112cA113cA114cA115cA115AcA116cA117cA118cA119cA120cA121cA122cA123cA124",
   "cA125cA125AcA126cA127cA128cA129cA130cA131cA132cA133cA134cA135cA135AcA136cA137cA138cA139cA140",
   "cA141cA142cA143cA144cA145cA146cA147cA148cA149cA150cA151cA152cA153cA154cA155cA156cA157cA158",
   "cA159cA160cA161cA162cA163cA164cA165cA166cA167cA168cA169cA170cA171cA172cA173cA174cA175cA176",
   "cA177cA178cA179cA180cA181cA182cA183cA184cA185cA186cA187cA188cA189cA190cA191cA192cA193cA194",
   "cA195cA196cA197cA198cA199cA200cA201cA202cA202AcA202BcA203cA204cA205cA206cA207cA207AcA208cA209",
   "cA209AcA210cA211cA212cA213cA214cA215cA215AcA216cA216AcA217cA218cA219cA220cA221cA222cA223cA224",
   "cA225cA226cA227cA227AcA228cA229cA230cA231cA232cA233cA234cA235cA236cA237cA238cA239cA240cA241",
   "cA242cA243cA244cA245cA246cA247cA248cA249cA250cA251cA252cA253cA254cA255cA256cA257cA258cA259",
   "cA260cA261cA262cA263cA264cA265cA266cA267cA267AcA268cA269cA270cA271cA272cA273cA274cA275cA276",
   "cA277cA278cA279cA280cA281cA282cA283cA284cA285cA286cA287cA288cA289cA289AcA290cA291cA292cA293",
   "cA294cA294AcA295cA296cA297cA298cA299cA299AcA300cA301cA302cA303cA304cA305cA306cA307cA308cA309",
   "cA309AcA310cA311cA312cA313cA314cA315cA316cA317cA318cA319cA320cA321cA322cA323cA324cA325cA326",
   "cA327cA328cA329cA329AcA330cA331cA332AcA332BcA332CcA333cA334cA335cA336cA336AcA336BcA336CcA337",
   "cA338cA339cA340cA341cA342cA343cA344cA345cA346cA347cA348cA349cA350cA351cA352cA353cA354cA355",
   "cA356cA357cA358cA359cA359AcA360cA361cA362cA363cA364cA364AcA365cA366cA367cA368cA368AcA369cA370",
   "cA371cA371AcA372cA373cA374cA375cA376cA377cA378cA379cA380cA381cA381AcA382cA383 RA OR RIcA383A",
   "cA384cA385cA386cA386AcA387cA388cA389cA390cA391cA392cA393 EIGHTcA394cA395cA396cA397cA398cA399",
   "cA400cA401cA402cA403cA404cA405cA406cA407cA408cA409cA410 BEGIN LOGOGRAM MARK",
   "cA410A END LOGOGRAM MARKcA411cA412cA413cA414cA415cA416cA417cA418cA419cA420cA421cA422cA423cA424",
   "cA425cA426cA427cA428cA429cA430cA431cA432cA433cA434cA435cA436cA437cA438cA439cA440cA441cA442",
   "cA443cA444cA445cA446cA447cA448cA449cA450cA450AcA451cA452cA453cA454cA455cA456cA457cA457AcA458",
   "cA459cA460cA461cA462cA463cA464cA465cA466cA467cA468cA469cA470cA471cA472cA473cA474cA475cA476",
   "cA477cA478cA479cA480cA481cA482cA483cA484cA485cA486cA487cA488cA489cA490cA491cA492cA493cA494",
   "cA495cA496cA497cA501cA502cA503cA504cA505cA506cA507cA508cA509cA510cA511cA512cA513cA514cA515",
   "cA516cA517cA518cA519cA520cA521cA522cA523cA524cA525cA526cA527cA528cA529cA530aANATOMICAL HEART",
   "aANCHORaAND WITH DOTaANGER SYMBOLaANGLEbWITH S INSIDEcUNDERBARaANGRY FACEaANGSTROM SIGN",
   "aANGUISHED FACEaANKHaANTaANTENNA WITH BARSaANTICLOCKWISE CLOSED CIRCLE ARROWbCONTOUR INTEGRAL",
   "bDOWNWARDS AND UPWARDS OPEN CIRCLE ARROWSbGAPPED CIRCLE ARROWbINTEGRATIONbOPEN CIRCLE ARROW",
   "bTOP SEMICIRCLE ARROWbTRIANGLE-HEADED BOTTOM U-SHAPED ARROWcLEFT U-SHAPED ARROW",
   "cOPEN CIRCLE ARROWcRIGHT U-SHAPED ARROWcTOP U-SHAPED ARROWaAPCaAPL FUNCTIONAL SYMBOL ALPHA",
   "eUNDERBARdBACKSLASH BARdCIRCLE BACKSLASHeDIAERESISeJOTeSTAReSTILEeUNDERBARdCOMMA BAR",
   "dDEL DIAERESISeSTILEeTILDEdDELTA STILEeUNDERBARdDIAMOND UNDERBARdDOWN CARET TILDEeSHOE STILE",
   "eTACK JOTfUNDERBARdDOWNWARDS VANEdEPSILON UNDERBARdGREATER-THAN DIAERESISdI-BEAMdIOTAeUNDERBAR",
   "dJOT DIAERESISeUNDERBARdLEFT SHOE STILEdLEFTWARDS VANEdOMEGAeUNDERBARdQUADeBACKSLASHeCIRCLE",
   "eCOLONeDELeDELTAeDIAMONDeDIVIDEeDOWN CARETeDOWNWARDS ARROWeEQUALeGREATER-THANeJOT",
   "eLEFTWARDS ARROWeLESS-THANeNOT EQUALeQUESTIONeRIGHTWARDS ARROWeSLASHeUP CARETeUPWARDS ARROW",
   "dQUOTE QUADeUNDERBARdRHOdRIGHTWARDS VANEdSEMICOLON UNDERBARdSLASH BARdSQUISH QUAD",
   "dSTAR DIAERESISdSTILE TILDEdTILDE DIAERESISdUP CARET TILDEeSHOE JOTeTACK DIAERESISfJOTfOVERBAR",
   "dUPWARDS VANEdZILDEaAPOLLONaAPOSTROPHEaAPPLICATION PROGRAM COMMANDaAPPROACHES THE LIMIT",
   "aAPPROXIMATELY BUT NOT ACTUALLY EQUAL TObEQUAL OR EQUAL TOcTOdOR THE IMAGE OFaAQUARIUS",
   "aARABIC BASELINE ROUND DOTbCOMMAbCURLY DAMMAcDAMMATANcFATHAcFATHATANcKASRAcKASRATANbDAMMA",
   "cISOLATED FORMcMEDIAL FORMcWITH DOTbDAMMATANcISOLATED FORMbDATE SEPARATORbDECIMAL SEPARATOR",
   "bDISPUTED END OF AYAHbDOUBLE RIGHT ARROWHEAD ABOVEfWITH DOTbDOUBLED MADDA",
   "bEMPTY CENTRE HIGH STOPdLOW STOPbEND OF AYAHdTEXT MARKbFATHAcISOLATED FORMcMEDIAL FORM",
   "cWITH DOT ABOVEdRINGdTWO DOTSbFATHATANcISOLATED FORMbFIVE POINTED STARbFOOTNOTE MARKER",
   "bFULL STOPbHALF MADDA OVER MADDAbHAMZA ABOVEcBELOWbINVERTED DAMMAbKASRAcISOLATED FORM",
   "cMEDIAL FORMcWITH DOT BELOWbKASRATANcISOLATED FORMbLARGE CIRCLE BELOWcROUND DOT ABOVEeBELOW",
   "eINSIDE CIRCLE BELOWbLEFT ARROWHEAD ABOVEdBELOWbLETTER AEcAFRICAN FEHdNOONdQAF",
   "eWITH THREE DOTS ABOVEcAINdFINAL FORMdINITIAL FORMdISOLATED FORMdMEDIAL FORM",
   "dWITH THREE DOTS ABOVEgBELOWgPOINTING DOWNWARDS ABOVEeTWO DOTS ABOVEgVERTICALLY ABOVEcALEF",
   "dFINAL FORMdISOLATED FORMdMAKSURAeFINAL FORMeISOLATED FORMdWASLAeFINAL FORMeISOLATED FORM",
   "dWITH ATTACHED BOTTOM RIGHT KASRAiAND DOT ABOVEjLEFT RINGfFATHAfKASRAfLEFT HAMZAgROUND DOT",
   "fRIGHT HAMZAgROUND DOTfROUND DOT ABOVEhBELOWfTOP RIGHT FATHAiAND DOT ABOVEjLEFT RINGeDOT ABOVE",
   "eEXTENDED ARABIC-INDIC DIGIT THREE ABOVEhTWO ABOVEeHAMZA ABOVEgFINAL FORMgISOLATED FORMfBELOW",
   "gFINAL FORMgISOLATED FORMeLEFT MIDDLE STROKEeMADDA ABOVEgFINAL FORMgISOLATED FORM",
   "eRIGHT MIDDLE STROKEhAND DOT ABOVEiLEFT RINGeWAVY HAMZA ABOVEgBELOWcBEEHdFINAL FORM",
   "dINITIAL FORMdISOLATED FORMdMEDIAL FORMcBEHdFINAL FORMdINITIAL FORMdISOLATED FORMdMEDIAL FORM",
   "dWITH DOT BELOW AND THREE DOTS ABOVEeHAMZA ABOVEeINVERTED SMALL V BELOWeSMALL MEEM ABOVEfV",
   "gBELOWeTHREE DOTS HORIZONTALLY BELOWgPOINTING UPWARDS BELOWjAND TWO DOTS ABOVE",
   "eTWO DOTS BELOW AND DOT ABOVEcBEHEHdFINAL FORMdINITIAL FORMdISOLATED FORMdMEDIAL FORMcDAD",
   "dFINAL FORMdINITIAL FORMdISOLATED FORMdMEDIAL FORMdWITH DOT BELOWcDAHALdFINAL FORM",
   "dISOLATED FORMcDALdFINAL FORMdISOLATED FORMdWITH DOT BELOWgAND SMALL TAHeFOUR DOTS ABOVE",
   "eINVERTED SMALL V BELOWfVeRINGeTHREE DOTS ABOVE DOWNWARDSgBELOW",
   "eTWO DOTS VERTICALLY BELOW AND SMALL TAHcDDAHALdFINAL FORMdISOLATED FORMcDDALdFINAL FORM",
   "dISOLATED FORMcDOTLESS BEHdFEHdQAFcDULdFINAL FORMdISOLATED FORMcDYEHdFINAL FORMdINITIAL FORM",
   "dISOLATED FORMdMEDIAL FORMcEdFINAL FORMdINITIAL FORMdISOLATED FORMdMEDIAL FORMcFARSI YEH",
   "eFINAL FORMeINITIAL FORMeISOLATED FORMeMEDIAL FORMeWITH EXTENDED ARABIC-INDIC DIGIT FOUR BELOW",
   "iTHREE ABOVEiTWO ABOVEfINVERTED VfTHREE DOTS ABOVEfTWO DOTS ABOVEcFEHdFINAL FORMdINITIAL FORM",
   "dISOLATED FORMdMEDIAL FORMdWITH DOT BELOWgAND THREE DOTS ABOVEfMOVED BELOWeTHREE DOTS BELOW",
   "gPOINTING UPWARDS BELOWeTWO DOTS BELOWcGAFdFINAL FORMdINITIAL FORMdISOLATED FORMdMEDIAL FORM",
   "dWITH INVERTED STROKEeRINGeTHREE DOTS ABOVEeTWO DOTS BELOWcGHAINdFINAL FORMdINITIAL FORM",
   "dISOLATED FORMdMEDIAL FORMdWITH DOT BELOWeTHREE DOTS ABOVEcGRAFcGUEHdFINAL FORMdINITIAL FORM",
   "dISOLATED FORMdMEDIAL FORMcHAHdFINAL FORMdINITIAL FORMdISOLATED FORMdMEDIAL FORM",
   "dWITH EXTENDED ARABIC-INDIC DIGIT FOUR BELOWeHAMZA ABOVEeINVERTED SMALL V BELOW",
   "eSMALL ARABIC LETTER TAH ABOVEiAND TWO DOTSiBELOWeTHREE DOTS ABOVEgPOINTING UPWARDS BELOW",
   "eTWO DOTS ABOVEgVERTICAL ABOVEcHAMZAdISOLATED FORMcHEHdDOACHASHMEEeFINAL FORMeINITIAL FORM",
   "eISOLATED FORMeMEDIAL FORMdFINAL FORMdGOALeFINAL FORMeINITIAL FORMeISOLATED FORMeMEDIAL FORM",
   "eWITH HAMZA ABOVEdINITIAL FORMdISOLATED FORMdMEDIAL FORMdWITH INVERTED VeYEH ABOVEgFINAL FORM",
   "gISOLATED FORMcHIGH HAMZAeALEFeWAWeYEHcJEEMdFINAL FORMdINITIAL FORMdISOLATED FORMdMEDIAL FORM",
   "dWITH THREE DOTS ABOVEgBELOWeTWO DOTS ABOVEcJEHdFINAL FORMdISOLATED FORMcKAFdFINAL FORM",
   "dINITIAL FORMdISOLATED FORMdMEDIAL FORMdWITH DOT ABOVEfBELOWeRINGeTHREE DOTS BELOW",
   "eTWO DOTS ABOVEcKASHMIRI YEHcKEHEHdFINAL FORMdINITIAL FORMdISOLATED FORMdMEDIAL FORM",
   "dWITH DOT ABOVEeSMALL VeTHREE DOTS ABOVEgBELOWgPOINTING UPWARDS BELOWeTWO DOTS ABOVE",
   "gVERTICALLY BELOWcKHAHdFINAL FORMdINITIAL FORMdISOLATED FORMdMEDIAL FORMcKIRGHIZ OEeFINAL FORM",
   "eISOLATED FORMdYUeFINAL FORMeISOLATED FORMcLAMdFINAL FORMdINITIAL FORMdISOLATED FORM",
   "dMEDIAL FORMdWITH BAReDOT ABOVEeDOUBLE BAReSMALL ARABIC LETTER TAH ABOVEfVeTHREE DOTS ABOVE",
   "gBELOWcLOW ALEFcMARKcMEEMdFINAL FORMdINITIAL FORMdISOLATED FORMdMEDIAL FORMdWITH DOT ABOVE",
   "fBELOWeTHREE DOTS ABOVEcNGdFINAL FORMdINITIAL FORMdISOLATED FORMdMEDIAL FORMcNGOEHdFINAL FORM",
   "dINITIAL FORMdISOLATED FORMdMEDIAL FORMcNOONdFINAL FORMdGHUNNAeFINAL FORMeISOLATED FORM",
   "dINITIAL FORMdISOLATED FORMdMEDIAL FORMdWITH DOT BELOWeINVERTED SMALL VeRINGeSMALL TAHfV",
   "eTHREE DOTS ABOVEeTWO DOTS BELOWcNYEHdFINAL FORMdINITIAL FORMdISOLATED FORMdMEDIAL FORMcOE",
   "dFINAL FORMdISOLATED FORMcPEHdFINAL FORMdINITIAL FORMdISOLATED FORMdMEDIAL FORM",
   "dWITH SMALL MEEM ABOVEfVcPEHEHdFINAL FORMdINITIAL FORMdISOLATED FORMdMEDIAL FORMcQAF",
   "dFINAL FORMdINITIAL FORMdISOLATED FORMdMEDIAL FORMdWITH DOT ABOVEfBELOWgAND NO DOTS ABOVE",
   "eTHREE DOTS ABOVEcREHdFINAL FORMdISOLATED FORMdWITH DOT BELOWgAND DOT ABOVEeFOUR DOTS ABOVE",
   "eHAMZA ABOVEeINVERTED VeLOOPeRINGeSMALL ARABIC LETTER TAH AND TWO DOTSfNOON ABOVEfVgBELOW",
   "eSTROKEeTWO DOTS ABOVEgVERTICALLY ABOVEcRNOONdFINAL FORMdINITIAL FORMdISOLATED FORM",
   "dMEDIAL FORMcROHINGYA YEHcRREHdFINAL FORMdISOLATED FORMcSADdFINAL FORMdINITIAL FORM",
   "dISOLATED FORMdMEDIAL FORMdWITH THREE DOTS ABOVEgBELOWeTWO DOTS BELOWcSEENdFINAL FORM",
   "dINITIAL FORMdISOLATED FORMdMEDIAL FORMdWITH DOT BELOW AND DOT ABOVE",
   "eEXTENDED ARABIC-INDIC DIGIT FOUR ABOVEeFOUR DOTS ABOVEeINVERTED V",
   "eSMALL ARABIC LETTER TAH AND TWO DOTSeTHREE DOTS BELOWhAND THREE DOTS ABOVE",
   "eTWO DOTS VERTICALLY ABOVEcSHEENdFINAL FORMdINITIAL FORMdISOLATED FORMdMEDIAL FORM",
   "dWITH DOT BELOWcSTRAIGHT WAWcSUPERSCRIPT ALEFcSWASH KAFcTAHdFINAL FORMdINITIAL FORM",
   "dISOLATED FORMdMEDIAL FORMdWITH DOT BELOWeTHREE DOTS ABOVEgBELOWeTWO DOTS ABOVEcTCHEH",
   "dFINAL FORMdINITIAL FORMdISOLATED FORMdMEDIAL FORMdWITH DOT ABOVEeSMALL VcTCHEHEHdFINAL FORM",
   "dINITIAL FORMdISOLATED FORMdMEDIAL FORMcTEHdFINAL FORMdINITIAL FORMdISOLATED FORMdMARBUTA",
   "eFINAL FORMeGOALeISOLATED FORMdMEDIAL FORMdWITH RINGeSMALL TEH ABOVEfV",
   "eTHREE DOTS ABOVE DOWNWARDScTEHEHdFINAL FORMdINITIAL FORMdISOLATED FORMdMEDIAL FORMcTHAL",
   "dFINAL FORMdISOLATED FORMcTHEHdFINAL FORMdINITIAL FORMdISOLATED FORMdMEDIAL FORMcTHIN YEHcTTEH",
   "dFINAL FORMdINITIAL FORMdISOLATED FORMdMEDIAL FORMdWITH SMALL VcTTEHEHdFINAL FORMdINITIAL FORM",
   "dISOLATED FORMdMEDIAL FORMcUdFINAL FORMdISOLATED FORMdWITH HAMZA ABOVEgISOLATED FORM",
   "cUIGHUR KAZAKH KIRGHIZ ALEF MAKSURA INITIAL FORMhMEDIAL FORMcVEdFINAL FORMdISOLATED FORMcVEH",
   "dFINAL FORMdINITIAL FORMdISOLATED FORMdMEDIAL FORMcWAWdFINAL FORMdISOLATED FORMdWITH DOT ABOVE",
   "fWITHINeEXTENDED ARABIC-INDIC DIGIT THREE ABOVEhTWO ABOVEeHAMZA ABOVEgFINAL FORMgISOLATED FORM",
   "eRINGeTWO DOTS ABOVEcYEHdBARREEeFINAL FORMeISOLATED FORM",
   "eWITH EXTENDED ARABIC-INDIC DIGIT THREE ABOVEiTWO ABOVEfHAMZA ABOVEhFINAL FORMhISOLATED FORM",
   "dFINAL FORMdINITIAL FORMdISOLATED FORMdMEDIAL FORMdWITH HAMZA ABOVEgFINAL FORMgINITIAL FORM",
   "gISOLATED FORMgMEDIAL FORMeSMALL VeTAILeTHREE DOTS BELOWeTWO DOTS BELOW AND DOT ABOVE",
   "iHAMZA ABOVEiSMALL NOON ABOVEcYUdFINAL FORMdISOLATED FORMcZAHdFINAL FORMdINITIAL FORM",
   "dISOLATED FORMdMEDIAL FORMcZAINdFINAL FORMdISOLATED FORMdWITH INVERTED V ABOVE",
   "bLIGATURE AIN WITH ALEF MAKSURA FINAL FORMgISOLATED FORMeJEEM INITIAL FORMfISOLATED FORM",
   "fWITH MEEM FINAL FORMhINITIAL FORMeMEEM INITIAL FORMfISOLATED FORM",
   "fWITH ALEF MAKSURA FINAL FORMgMEEM FINAL FORMhINITIAL FORMgYEH FINAL FORMeYEH FINAL FORM",
   "fISOLATED FORMcAKBAR ISOLATED FORMcALAYHAA AS-SALAAMcALAYHE ISOLATED FORMcALAYHI AS-SALAAM",
   "dAS-SALAATU WAS-SALAAMcALAYHIM AS-SALAAMcALAYHIMAA AS-SALAAM",
   "cALEF MAKSURA WITH SUPERSCRIPT ALEF FINAL FORMhISOLATED FORMdWITH FATHATAN FINAL FORM",
   "fISOLATED FORMcALLAH ISOLATED FORMcAZZA WA JALLcBEH WITH ALEF MAKSURA FINAL FORMgISOLATED FORM",
   "eHAH INITIAL FORMfISOLATED FORMfWITH YEH FINAL FORMeHEH INITIAL FORMfMEDIAL FORM",
   "eJEEM INITIAL FORMfISOLATED FORMeKHAH INITIAL FORMfISOLATED FORMfWITH YEH FINAL FORM",
   "eMEEM FINAL FORMfINITIAL FORMfISOLATED FORMfMEDIAL FORMeNOON FINAL FORMeREH FINAL FORM",
   "eYEH FINAL FORMfISOLATED FORMeZAIN FINAL FORMcBISMILLAH AR-RAHMAN AR-RAHEEM",
   "cDAD WITH ALEF MAKSURA FINAL FORMgISOLATED FORMeHAH INITIAL FORMfISOLATED FORM",
   "fWITH ALEF MAKSURA FINAL FORMgYEH FINAL FORMeJEEM INITIAL FORMfISOLATED FORMeKHAH INITIAL FORM",
   "fISOLATED FORMfWITH MEEM FINAL FORMhINITIAL FORMeMEEM INITIAL FORMfISOLATED FORM",
   "eREH FINAL FORMfISOLATED FORMeYEH FINAL FORMfISOLATED FORMcFEH WITH ALEF MAKSURA FINAL FORM",
   "gISOLATED FORMeHAH INITIAL FORMfISOLATED FORMeJEEM INITIAL FORMfISOLATED FORM",
   "eKHAH INITIAL FORMfISOLATED FORMfWITH MEEM FINAL FORMhINITIAL FORMeMEEM INITIAL FORM",
   "fISOLATED FORMfWITH YEH FINAL FORMeYEH FINAL FORMfISOLATED FORM",
   "cGHAIN WITH ALEF MAKSURA FINAL FORMgISOLATED FORMeJEEM INITIAL FORMfISOLATED FORM",
   "eMEEM INITIAL FORMfISOLATED FORMfWITH ALEF MAKSURA FINAL FORMgMEEM FINAL FORMgYEH FINAL FORM",
   "eYEH FINAL FORMfISOLATED FORMcHAH WITH ALEF MAKSURA FINAL FORMgISOLATED FORMeJEEM INITIAL FORM",
   "fISOLATED FORMfWITH YEH FINAL FORMeMEEM INITIAL FORMfISOLATED FORM",
   "fWITH ALEF MAKSURA FINAL FORMgYEH FINAL FORMeYEH FINAL FORMfISOLATED FORM",
   "cHEH WITH ALEF MAKSURA ISOLATED FORMeJEEM INITIAL FORMfISOLATED FORMeMEEM INITIAL FORM",
   "fISOLATED FORMfWITH JEEM INITIAL FORMgMEEM INITIAL FORMeSUPERSCRIPT ALEF INITIAL FORM",
   "eYEH ISOLATED FORMcJALLAJALALOUHOUcJEEM WITH ALEF MAKSURA FINAL FORMgISOLATED FORM",
   "eHAH INITIAL FORMfISOLATED FORMfWITH ALEF MAKSURA FINAL FORMgYEH FINAL FORMeMEEM INITIAL FORM",
   "fISOLATED FORMfWITH ALEF MAKSURA FINAL FORMgHAH FINAL FORMhINITIAL FORMgYEH FINAL FORM",
   "eYEH FINAL FORMfISOLATED FORMcKAF WITH ALEF FINAL FORMfISOLATED FORMfMAKSURA FINAL FORM",
   "gISOLATED FORMeHAH INITIAL FORMfISOLATED FORMeJEEM INITIAL FORMfISOLATED FORM",
   "eKHAH INITIAL FORMfISOLATED FORMeLAM FINAL FORMfINITIAL FORMfISOLATED FORMfMEDIAL FORM",
   "eMEEM FINAL FORMfINITIAL FORMfISOLATED FORMfMEDIAL FORMfWITH MEEM FINAL FORMhINITIAL FORM",
   "gYEH FINAL FORMeYEH FINAL FORMfISOLATED FORMcKHAH WITH ALEF MAKSURA FINAL FORMgISOLATED FORM",
   "eHAH ISOLATED FORMeJEEM INITIAL FORMfISOLATED FORMeMEEM INITIAL FORMfISOLATED FORM",
   "eYEH FINAL FORMfISOLATED FORMcLAM WITH ALEF FINAL FORMfISOLATED FORMfMAKSURA FINAL FORM",
   "gISOLATED FORMfWITH HAMZA ABOVE FINAL FORMiISOLATED FORMhBELOW FINAL FORMiISOLATED FORM",
   "gMADDA ABOVE FINAL FORMiISOLATED FORMeHAH INITIAL FORMfISOLATED FORM",
   "fWITH ALEF MAKSURA FINAL FORMgMEEM FINAL FORMhINITIAL FORMgYEH FINAL FORMeHEH INITIAL FORM",
   "eJEEM INITIAL FORMfISOLATED FORMfWITH JEEM FINAL FORMhINITIAL FORMgMEEM FINAL FORM",
   "hINITIAL FORMgYEH FINAL FORMeKHAH INITIAL FORMfISOLATED FORMfWITH MEEM FINAL FORMhINITIAL FORM",
   "eMEEM FINAL FORMfINITIAL FORMfISOLATED FORMfMEDIAL FORMfWITH HAH FINAL FORMhINITIAL FORM",
   "gYEH FINAL FORMeYEH FINAL FORMfISOLATED FORMcMEEM WITH ALEF FINAL FORMfMAKSURA ISOLATED FORM",
   "eHAH INITIAL FORMfISOLATED FORMfWITH JEEM INITIAL FORMgMEEM INITIAL FORMgYEH FINAL FORM",
   "eJEEM INITIAL FORMfISOLATED FORMfWITH HAH INITIAL FORMgKHAH INITIAL FORMgMEEM INITIAL FORM",
   "gYEH FINAL FORMeKHAH INITIAL FORMfISOLATED FORMfWITH JEEM INITIAL FORMgMEEM INITIAL FORM",
   "gYEH FINAL FORMeMEEM FINAL FORMfINITIAL FORMfISOLATED FORMfWITH YEH FINAL FORM",
   "eYEH ISOLATED FORMcMOHAMMAD ISOLATED FORMcNOON WITH ALEF MAKSURA FINAL FORMgISOLATED FORM",
   "eHAH INITIAL FORMfISOLATED FORMfWITH ALEF MAKSURA FINAL FORMgMEEM INITIAL FORMgYEH FINAL FORM",
   "eHEH INITIAL FORMfMEDIAL FORMeJEEM INITIAL FORMfISOLATED FORMfWITH ALEF MAKSURA FINAL FORM",
   "gHAH FINAL FORMhINITIAL FORMgMEEM FINAL FORMhINITIAL FORMgYEH FINAL FORMeKHAH INITIAL FORM",
   "fISOLATED FORMeMEEM FINAL FORMfINITIAL FORMfISOLATED FORMfMEDIAL FORM",
   "fWITH ALEF MAKSURA FINAL FORMgYEH FINAL FORMeNOON FINAL FORMeREH FINAL FORMeYEH FINAL FORM",
   "fISOLATED FORMeZAIN FINAL FORMcQAF WITH ALEF MAKSURA FINAL FORMgISOLATED FORMeHAH INITIAL FORM",
   "fISOLATED FORMeMEEM INITIAL FORMfISOLATED FORMfWITH HAH FINAL FORMhINITIAL FORM",
   "gMEEM FINAL FORMgYEH FINAL FORMeYEH FINAL FORMfISOLATED FORM",
   "cQALA USED AS KORANIC STOP SIGN ISOLATED FORMcQUDDISA SIRRAHcRADI ALLAAHU ANHeANHAAeANHUM",
   "eANHUMAAeANHUNNAcRAHIMAHU ALLAAHcRAHIMAHUM ALLAAHcRASOUL ISOLATED FORM",
   "cREH WITH SUPERSCRIPT ALEF ISOLATED FORMcSAD WITH ALEF MAKSURA FINAL FORMgISOLATED FORM",
   "eHAH INITIAL FORMfISOLATED FORMfWITH HAH FINAL FORMhINITIAL FORMgYEH FINAL FORM",
   "eKHAH INITIAL FORMeMEEM INITIAL FORMfISOLATED FORMfWITH MEEM FINAL FORMhINITIAL FORM",
   "eREH FINAL FORMfISOLATED FORMeYEH FINAL FORMfISOLATED FORMcSALAAMUHU ALAYNAA",
   "cSALAM ISOLATED FORMcSALLA ISOLATED FORMdUSED AS KORANIC STOP SIGN ISOLATED FORM",
   "cSALLALLAAHU ALAYHI WA-AALIHcSALLALLAHOU ALAYHE WASALLAMcSALLALLAHU ALAYHI WAAALIHEE WA-SALLAM",
   "cSEEN WITH ALEF MAKSURA FINAL FORMgISOLATED FORMeHAH INITIAL FORMfISOLATED FORMfMEDIAL FORM",
   "fWITH JEEM INITIAL FORMeHEH INITIAL FORMfMEDIAL FORMeJEEM INITIAL FORMfISOLATED FORM",
   "fMEDIAL FORMfWITH ALEF MAKSURA FINAL FORMgHAH INITIAL FORMeKHAH INITIAL FORMfISOLATED FORM",
   "fMEDIAL FORMfWITH ALEF MAKSURA FINAL FORMgYEH FINAL FORMeMEEM INITIAL FORMfISOLATED FORM",
   "fMEDIAL FORMfWITH HAH FINAL FORMhINITIAL FORMgJEEM INITIAL FORMgMEEM FINAL FORMhINITIAL FORM",
   "eREH FINAL FORMfISOLATED FORMeYEH FINAL FORMfISOLATED FORMcSHADDA WITH DAMMA ISOLATED FORM",
   "fMEDIAL FORMeDAMMATAN ISOLATED FORMeFATHA ISOLATED FORMfMEDIAL FORMeKASRA ISOLATED FORM",
   "fMEDIAL FORMeKASRATAN ISOLATED FORMeSUPERSCRIPT ALEF ISOLATED FORM",
   "cSHEEN WITH ALEF MAKSURA FINAL FORMgISOLATED FORMeHAH FINAL FORMfINITIAL FORMfISOLATED FORM",
   "fMEDIAL FORMfWITH MEEM FINAL FORMhINITIAL FORMgYEH FINAL FORMeHEH INITIAL FORMfMEDIAL FORM",
   "eJEEM FINAL FORMfINITIAL FORMfISOLATED FORMfMEDIAL FORMfWITH YEH FINAL FORMeKHAH FINAL FORM",
   "fINITIAL FORMfISOLATED FORMfMEDIAL FORMeMEEM FINAL FORMfINITIAL FORMfISOLATED FORMfMEDIAL FORM",
   "fWITH KHAH FINAL FORMhINITIAL FORMgMEEM FINAL FORMhINITIAL FORMeREH FINAL FORMfISOLATED FORM",
   "eYEH FINAL FORMfISOLATED FORMcSUBHAANAHU WA TAAALAAcTABAARAKA WA-TAAALAA",
   "cTAH WITH ALEF MAKSURA FINAL FORMgISOLATED FORMeHAH INITIAL FORMfISOLATED FORM",
   "eMEEM INITIAL FORMfISOLATED FORMfMEDIAL FORMfWITH HAH FINAL FORMhINITIAL FORM",
   "gMEEM INITIAL FORMgYEH FINAL FORMeYEH FINAL FORMfISOLATED FORM",
   "cTEH WITH ALEF MAKSURA FINAL FORMgISOLATED FORMeHAH INITIAL FORMfISOLATED FORM",
   "fWITH JEEM FINAL FORMhINITIAL FORMgMEEM INITIAL FORMeHEH INITIAL FORMfMEDIAL FORM",
   "eJEEM INITIAL FORMfISOLATED FORMfWITH ALEF MAKSURA FINAL FORMgMEEM INITIAL FORMgYEH FINAL FORM",
   "eKHAH INITIAL FORMfISOLATED FORMfWITH ALEF MAKSURA FINAL FORMgMEEM INITIAL FORMgYEH FINAL FORM",
   "eMEEM FINAL FORMfINITIAL FORMfISOLATED FORMfMEDIAL FORMfWITH ALEF MAKSURA FINAL FORM",
   "gHAH INITIAL FORMgJEEM INITIAL FORMgKHAH INITIAL FORMgYEH FINAL FORMeNOON FINAL FORM",
   "eREH FINAL FORMeYEH FINAL FORMfISOLATED FORMeZAIN FINAL FORM",
   "cTHAL WITH SUPERSCRIPT ALEF ISOLATED FORMcTHEH WITH ALEF MAKSURA FINAL FORMgISOLATED FORM",
   "eHEH MEDIAL FORMeJEEM ISOLATED FORMeMEEM FINAL FORMfINITIAL FORMfISOLATED FORMfMEDIAL FORM",
   "eNOON FINAL FORMeREH FINAL FORMeYEH FINAL FORMfISOLATED FORMeZAIN FINAL FORM",
   "cUIGHUR KIRGHIZ YEH WITH HAMZA ABOVE WITH ALEF MAKSURA FINAL FORMlINITIAL FORMlISOLATED FORM",
   "cWASALLAM ISOLATED FORMcYEH WITH ALEF MAKSURA FINAL FORMgISOLATED FORMeHAH INITIAL FORM",
   "fISOLATED FORMfWITH YEH FINAL FORMeHAMZA ABOVE WITH AE FINAL FORMiISOLATED FORM",
   "hALEF FINAL FORMiISOLATED FORMiMAKSURA FINAL FORMjISOLATED FORMhE FINAL FORMiINITIAL FORM",
   "iISOLATED FORMhHAH INITIAL FORMiISOLATED FORMhHEH INITIAL FORMiMEDIAL FORMhJEEM INITIAL FORM",
   "iISOLATED FORMhKHAH INITIAL FORMhMEEM FINAL FORMiINITIAL FORMiISOLATED FORMiMEDIAL FORM",
   "hNOON FINAL FORMhOE FINAL FORMiISOLATED FORMhREH FINAL FORMhU FINAL FORMiISOLATED FORM",
   "hWAW FINAL FORMiISOLATED FORMhYEH FINAL FORMiISOLATED FORMhYU FINAL FORMiISOLATED FORM",
   "hZAIN FINAL FORMeHEH INITIAL FORMfMEDIAL FORMeJEEM INITIAL FORMfISOLATED FORM",
   "fWITH YEH FINAL FORMeKHAH INITIAL FORMfISOLATED FORMeMEEM FINAL FORMfINITIAL FORM",
   "fISOLATED FORMfMEDIAL FORMfWITH MEEM FINAL FORMhINITIAL FORMgYEH FINAL FORMeNOON FINAL FORM",
   "eREH FINAL FORMeYEH FINAL FORMfISOLATED FORMeZAIN FINAL FORMcZAH WITH MEEM INITIAL FORM",
   "fISOLATED FORMfMEDIAL FORMbMADDA WAAJIBbMADDAH ABOVEbMARK NOON GHUNNAcSIDEWAYS NOON GHUNNA",
   "bMATHEMATICAL AINcALEFcBEHcDADcDALcDOTLESS BEHdFEHdNOONdQAFcDOUBLE-STRUCK AINdBEHdDADdDALdFEH",
   "dGHAINdHAHdJEEMdKHAHdLAMdMEEMdNOONdQAFdREHdSADdSEENdSHEENdTAHdTEHdTHALdTHEHdWAWdYEHdZAHdZAIN",
   "cFEHcGHAINcHAHcINITIAL AINdBEHdDADdFEHdGHAINdHAHdHEHdJEEMdKAFdKHAHdLAMdMEEMdNOONdQAFdSADdSEEN",
   "dSHEENdTEHdTHEHdYEHcJEEMcKAFcKHAHcLAMcLOOPED AINdALEFdBEHdDADdDALdFEHdGHAINdHAHdHEHdJEEMdKHAH",
   "dLAMdMEEMdNOONdQAFdREHdSADdSEENdSHEENdTAHdTEHdTHALdTHEHdWAWdYEHdZAHdZAINcMEEMcNOON",
   "cOPERATOR HAH WITH DALdMEEM WITH HAH WITH TATWEELcQAFcREHcSADcSEENcSHEENcSTRETCHED AINdBEHdDAD",
   "dDOTLESS BEHeFEHdFEHdGHAINdHAHdHEHdJEEMdKAFdKHAHdMEEMdNOONdQAFdSADdSEENdSHEENdTAHdTEHdTHEHdYEH",
   "dZAHcTAHcTAILED AINdDADdDOTLESS NOONeQAFdGHAINdHAHdJEEMdKHAHdLAMdNOONdQAFdSADdSEENdSHEENdYEH",
   "cTEHcTHALcTHEHcWAWcYEHcZAHcZAINbNUMBER MARK ABOVEcSIGNbOPEN DAMMATANcFATHATANcKASRATAN",
   "bPERCENT SIGNbPIASTRE MARK ABOVEbPLACE OF SAJDAHbPOETIC VERSE SIGNbPOUND MARK ABOVE",
   "bQUESTION MARKbRAISED ROUND DOTbRAYbREVERSED DAMMAbRIGHT ARROWHEAD ABOVEeWITH DOTdBELOW",
   "bROUNDED HIGH STOP WITH FILLED CENTREbSEMICOLONbSHADDAcISOLATED FORMcMEDIAL FORM",
   "bSIGN ALAYHE ASSALLAMcMISRAcRADI ALLAHOU ANHUcRAHMATULLAH ALAYHEcSAFHA",
   "cSALLALLAHOU ALAYHE WASSALLAMcSAMVATcSANAHcSINDHI AMPERSANDdPOSTPOSITION MENcTAKHALLUS",
   "bSMALL DAMMAcFARSI YEHcFATHAcHIGH AINdDOTLESS HEAD OF KHAHdFARSI YEHdFOOTNOTE MARKERdJEEM",
   "dLAM ALEFdLIGATURE ALEF WITH LAM WITH YEHeQAF WITH LAM WITH ALEF MAKSURA",
   "eSAD WITH LAM WITH ALEF MAKSURAdMADDAdMEEM INITIAL FORMeISOLATED FORMdNOONeWITH KASRAdQAF",
   "dROUNDED ZEROdSADdSEENdSIGN SAFHAdTAHdTHREE DOTSdUPRIGHT RECTANGULAR ZEROdWAWdWORD AL-JUZ",
   "eAN-NISFeAR-RUBeAS-SAJDAeATH-THALATHAeQIFeSAHeSAKTAeWAQFAdYEHeBARREE WITH TWO DOTS BELOWdZAH",
   "dZAINcKASRAcLOW MEEMdNOON WITH KASRAdSEENdWAWdWORD IMAALAeISHMAAMeTASHEELcWAWcYEH",
   "bSTART OF RUB EL HIZBbSUBSCRIPT ALEFbSUKUNcBELOWcISOLATED FORMcMEDIAL FORM",
   "bSUPERSCRIPT ALEF MOKHASSASbSYMBOL DOT ABOVEdBELOWcDOUBLE VERTICAL BAR BELOWcFOUR DOTS ABOVE",
   "eBELOWcRINGcSMALL TAH ABOVEeBELOWcTHREE DOTS ABOVEeBELOWePOINTING DOWNWARDS ABOVEgBELOW",
   "cTWO DOTS ABOVEeBELOWeVERTICALLY ABOVEfBELOWcWASLA ABOVEbTAIL FRAGMENTbTATWEEL",
   "cWITH FATHATAN ABOVEdOVERSTRUCK HAMZAeWAWdTWO DOTS BELOWbTHOUSANDS SEPARATORbTONE LOOP ABOVE",
   "dBELOWcONE DOT ABOVEeBELOWcTWO DOTS ABOVEeBELOWbTRIPLE DOT PUNCTUATION MARKbTURNED DAMMA BELOW",
   "bVERTICAL TAILbVOWEL SIGN DOT BELOWdINVERTED SMALL V ABOVEdSMALL V ABOVEbWAVY HAMZA BELOW",
   "bZWARAKAYaARABIC-INDIC CUBE ROOTbDIGIT EIGHTcFIVEcFOURcNINEcONEcSEVENcSIXcTHREEcTWOcZERO",
   "bFOURTH ROOTbPER MILLE SIGNcTEN THOUSAND SIGNaARCaARIESaARMENIAN ABBREVIATION MARKbAPOSTROPHE",
   "bCAPITAL LETTER AYBdBENdCAdCHAdCHEHdCOdDAdECHdEHdETdFEHdGHADdGIMdHOdINIdJAdJHEHdKEHdKENdLIWN",
   "dMENdNOWdOHdPEHdPIWRdRAdREHdSEHdSHAdTIWNdTOdVEWdVOdXEHdYIdYIWNdZAdZHEbCOMMAbDRAM SIGN",
   "bEMPHASIS MARKbEXCLAMATION MARKbFULL STOPbHYPHENbMODIFIER LETTER LEFT HALF RINGbQUESTION MARK",
   "bSMALL LETTER AYBdBENdCAdCHAdCHEHdCOdDAdECHdEHdETdFEHdGHADdGIMdHOdINIdJAdJHEHdKEHdKENdLIWNdMEN",
   "dNOWdOHdPEHdPIWRdRAdREHdSEHdSHAdTIWNdTOdTURNED AYBdVEWdVOdXEHdYIeWITH STROKEdYIWNdZAdZHE",
   "cLIGATURE ECH YIWNdMEN ECHeINIeNOWeXEHdVEW NOWaARROW POINTING DOWNWARDS THEN CURVING LEFTWARDS",
   "fRIGHTWARDScRIGHTWARDS THEN CURVING DOWNWARDSfSOUTH WESTfUPWARDScUPWARDS THEN NORTH WEST",
   "aARROWHEAD-SHAPED POINTERaARTICULATED LORRYaARTIST PALETTEaASCENDING NODEaASCIA SYMBOL",
   "aASSERTIONaASTERISKbOPERATORaASTERISMaASTONISHED FACEaASTRAEAaASTRONOMICAL SYMBOL FOR URANUS",
   "aASYMPTOTICALLY EQUAL TOaATHLETIC SHOEaATOM SYMBOLaAUBERGINEaAUSTRAL SIGNaAUTO RICKSHAW",
   "aAUTOMATED TELLER MACHINEaAUTOMOBILEaAVESTAN ABBREVIATION MARKbLETTER AcAAcAANcAAOcAEcAEEcAN",
   "cAOcBEcBHEcCEcDEcDHEcEcEEcFEcGEcGGEcGHEcHEcHMEcIcIIcJEcKEcLEcMEcNEcNGEcNGVEcNGYEcNNEcNYEcOcOO",
   "cPEcREcSEcSHEcSHYEcSSHEcTEcTHEcTTEcUcUUcVEcXEcXVEcXYEcYEcYYEcZEcZHEaAVOCADOaAXE"]

end FragmentImports.CharacterName
