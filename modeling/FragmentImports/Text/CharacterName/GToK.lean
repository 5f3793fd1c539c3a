namespace FragmentImports.CharacterName

def fromGToK : List String :=
  ["aGAME DIEaGARLICaGEARbWITH HANDLESbWITHOUT HUBaGEM STONEaGEMINIaGENIEaGEOMETRIC PROPORTION",
   "aGEOMETRICALLY EQUAL TObEQUIVALENT TOaGEORGIAN CAPITAL LETTER AENdANdBANdCANdCHARdCHINdCILdDON",
   "dENdGANdGHANdHAEdHARdHEdHIEdHOEdINdJHANdJILdKANdKHARdLASdMANdNARdONdPARdPHARdQARdRAEdSANdSHIN",
   "dTANdTARdUNdVINdWEdXANdYNdZENdZHARbLETTER AENcAINcANcBANcCANcCHARcCHINcCILcDONcELIFIcENcFIcGAN",
   "cGHANcHAEcHARcHARD SIGNcHEcHIEcHOEcINcJHANcJILcKANcKHARcLABIAL SIGNcLAScMANcNARcONcPARcPHAR",
   "cQARcRAEcSANcSHINcTANcTARcTURNED GANcUNcVINcWEcXANcYNcZENcZHARbMTAVRULI CAPITAL LETTER AENeAIN",
   "eANeBANeCANeCHAReCHINeCILeDONeELIFIeENeFIeGANeGHANeHAEeHAReHARD SIGNeHEeHIEeHOEeINeJHANeJIL",
   "eKANeKHAReLABIAL SIGNeLASeMANeNAReONePARePHAReQAReRAEeSANeSHINeTANeTAReTURNED GANeUNeVINeWE",
   "eXANeYNeZENeZHARbPARAGRAPH SEPARATORbSMALL LETTER AENdANdBANdCANdCHARdCHINdCILdDONdENdGANdGHAN",
   "dHAEdHARdHEdHIEdHOEdINdJHANdJILdKANdKHARdLASdMANdNARdONdPARdPHARdQARdRAEdSANdSHINdTANdTARdUN",
   "dVINdWEdXANdYNdZENdZHARaGERMAN PENNY SIGNaGETA MARKaGHOSTaGIMEL SYMBOLaGIRAFFE FACEaGIRL",
   "aGIRLS SYMBOLaGLAGOLITIC CAPITAL LETTER AZUdBIG YUSdBUKYdCAUDATE CHRIVIdCHRIVIdDJERVIdDOBRO",
   "dDZELOdFITAdFRITUdGLAGOLIdHERUdIdINITIAL IZHEdIOTATED BIG YUSeSMALL YUSdIZHEdIZHITSAdKAKO",
   "dLATINATE MYSLITEdLJUDIJEdMYSLITEdNASHIdONUdOTUdPEdPOKOJIdRITSIdSHAdSHTAdSHTAPICdSLOVO",
   "dSMALL YUSfWITH TAILdSPIDERY HAdTROKUTASTI AdTSIdTVRIDOdUKUdVEDEdYATIdYERIdYERUdYESTUdYOdYU",
   "dZEMLJAdZHIVETEbSMALL LETTER AZUdBIG YUSdBUKYdCAUDATE CHRIVIdCHRIVIdDJERVIdDOBROdDZELOdFITA",
   "dFRITUdGLAGOLIdHERUdIdINITIAL IZHEdIOTATED BIG YUSeSMALL YUSdIZHEdIZHITSAdKAKO",
   "dLATINATE MYSLITEdLJUDIJEdMYSLITEdNASHIdONUdOTUdPEdPOKOJIdRITSIdSHAdSHTAdSHTAPICdSLOVO",
   "dSMALL YUSfWITH TAILdSPIDERY HAdTROKUTASTI AdTSIdTVRIDOdUKUdVEDEdYATIdYERIdYERUdYESTUdYOdYU",
   "dZEMLJAdZHIVETEaGLASS OF MILKaGLEICH STARKaGLOBE WITH MERIDIANSaGLOVESaGLOWING STARaGOAL NET",
   "aGOATaGOGGLESaGOLFERaGORILLAaGOTHIC LETTER AHSAcAIHVUScBAIRKANcDAGScEIScFAIHUcGIBAcHAGLcHWAIR",
   "cIGGWScIUJAcJERcKUSMAcLAGUScMANNAcNAUTHScNINE HUNDREDcNINETYcOTHALcPAIRTHRAcQAIRTHRAcRAIDA",
   "cSAUILcTEIWScTHIUTHcURUScWINJAaGRADUATION CAPaGRANTHA AU LENGTH MARKbLETTER AcAAcAIcAUcBAcBHA",
   "cCAcCHAcDAcDDAcDDHAcDHAcEEcGAcGHAcHAcIcIIcJAcJHAcKAcKHAcLAcLLAcMAcNAcNGAcNNAcNYAcOOcPAcPHAcRA",
   "cSAcSHAcSSAcTAcTHAcTTAcTTHAcUcUUcVAcVEDIC ANUSVARAdDOUBLE ANUSVARAcVOCALIC LdLLdRdRRcYAbOM",
   "bSIGN ANUSVARAcAVAGRAHAcCANDRABINDUcCOMBINING ANUSVARA ABOVEcNUKTAcPLUTAcVIRAMAcVISARGA",
   "bVOWEL SIGN AAdAIdAUdEEdIdIIdOOdUdUUdVOCALIC LeLLeReRRaGRAPESaGRAVE ACCENT",
   "aGREATER-THAN ABOVE DOUBLE-LINE EQUAL ABOVE LESS-THANcLESS-THAN ABOVE DOUBLE-LINE EQUAL",
   "cRIGHTWARDS ARROWcSIMILAR ABOVE LESS-THANdOR EQUAL",
   "cSLANTED EQUAL ABOVE LESS-THAN ABOVE SLANTED EQUALbAND NOT APPROXIMATE",
   "cSINGLE-LINE NOT EQUAL TObBESIDE LESS-THANbBUT NOT EQUAL TOdEQUIVALENT TObCLOSED BY CURVE",
   "eABOVE SLANTED EQUALbEQUAL TO OR LESS-THANbOR APPROXIMATEcEQUAL TOcEQUIVALENT TOcLESS-THAN",
   "cSLANTED EQUAL TOfWITH DOT ABOVEiLEFThINSIDEbOVER EQUAL TObOVERLAPPING LESS-THANbSIGN",
   "bWITH CIRCLE INSIDEcDOTcQUESTION MARK ABOVEaGREEK ACROPHONIC ATTIC FIFTYeSTATERSeTALENTS",
   "eTHOUSANDfSTATERSdFIVEeHUNDREDfSTATERSfTALENTSeSTATERSeTALENTSeTHOUSANDfTALENTSdONE DRACHMA",
   "eHALFeHUNDRED STATERSfTALENTSeQUARTEReTHOUSAND STATERSfTALENTSdTEN MNASeSTATERSeTALENTS",
   "eTHOUSAND STATERScCARYSTIAN FIVE HUNDREDcCYRENAIC TWO DRACHMAScDELPHIC FIVE MNAS",
   "cEPIDAUREAN FIVE HUNDREDdTWOeDRACHMAScHERAEUM ONE PLETHRONcHERMIONIAN FIFTYdONEdTEN",
   "cMESSENIAN TENcNAXIAN FIVE HUNDREDcSTRATIAN FIFTY MNAScTHESPIAN FIFTYdFIVE HUNDREDeTHOUSAND",
   "dONEeHUNDREDeTHOUSANDdTENdTHIRTYdTHREE HUNDREDdTWOcTROEZENIAN FIFTYeALTERNATE FORMdFIVE",
   "eHUNDREDdTENeALTERNATE FORMbANO TELEIAbAROURA SIGNbARTABE SIGNbBETA SYMBOL",
   "bCAPITAL DOTTED LUNATE SIGMA SYMBOLcKAI SYMBOLcLETTER ALPHAeWITH DASIAgAND OXIA",
   "iAND PROSGEGRAMMENIhPERISPOMENIiAND PROSGEGRAMMENIhPROSGEGRAMMENIhVARIAiAND PROSGEGRAMMENI",
   "fMACRONfOXIAfPROSGEGRAMMENIfPSILIgAND OXIAiAND PROSGEGRAMMENIhPERISPOMENIiAND PROSGEGRAMMENI",
   "hPROSGEGRAMMENIhVARIAiAND PROSGEGRAMMENIfTONOSfVARIAfVRACHYdARCHAIC SAMPIdBETAdCHIdDELTA",
   "dEPSILONeWITH DASIAgAND OXIAhVARIAfOXIAfPSILIgAND OXIAhVARIAfTONOSfVARIAdETAeWITH DASIA",
   "gAND OXIAiAND PROSGEGRAMMENIhPERISPOMENIiAND PROSGEGRAMMENIhPROSGEGRAMMENIhVARIA",
   "iAND PROSGEGRAMMENIfOXIAfPROSGEGRAMMENIfPSILIgAND OXIAiAND PROSGEGRAMMENIhPERISPOMENI",
   "iAND PROSGEGRAMMENIhPROSGEGRAMMENIhVARIAiAND PROSGEGRAMMENIfTONOSfVARIAdGAMMAdHETAdIOTA",
   "eWITH DASIAgAND OXIAhPERISPOMENIhVARIAfDIALYTIKAfMACRONfOXIAfPSILIgAND OXIAhPERISPOMENIhVARIA",
   "fTONOSfVARIAfVRACHYdKAPPAdLAMDAdMUdNUdOMEGAeWITH DASIAgAND OXIAiAND PROSGEGRAMMENIhPERISPOMENI",
   "iAND PROSGEGRAMMENIhPROSGEGRAMMENIhVARIAiAND PROSGEGRAMMENIfOXIAfPROSGEGRAMMENIfPSILIgAND OXIA",
   "iAND PROSGEGRAMMENIhPERISPOMENIiAND PROSGEGRAMMENIhPROSGEGRAMMENIhVARIAiAND PROSGEGRAMMENI",
   "fTONOSfVARIAdOMICRONeWITH DASIAgAND OXIAhVARIAfOXIAfPSILIgAND OXIAhVARIAfTONOSfVARIA",
   "dPAMPHYLIAN DIGAMMAdPHIdPIdPSIdRHOeWITH DASIAdSANdSHOdSIGMAdTAUdTHETAdUPSILONeWITH DASIA",
   "gAND OXIAhPERISPOMENIhVARIAfDIALYTIKAfMACRONfOXIAfTONOSfVARIAfVRACHYdXIdYOTdZETA",
   "cLUNATE SIGMA SYMBOLcREVERSED DOTTED LUNATE SIGMA SYMBOLdLUNATE SIGMA SYMBOLcTHETA SYMBOL",
   "bDASIAcAND OXIAdPERISPOMENIdVARIAbDIALYTIKA AND OXIAdPERISPOMENIdVARIAcTONOSbDRACHMA SIGN",
   "bFIVE OBOLS SIGNbFOUR OBOLS SIGNbGRAMMA SIGNbINDICTION SIGNbINSTRUMENTAL NOTATION SYMBOL-1",
   "dSYMBOL-11dSYMBOL-12dSYMBOL-13dSYMBOL-14dSYMBOL-17dSYMBOL-18dSYMBOL-19dSYMBOL-2dSYMBOL-23",
   "dSYMBOL-24dSYMBOL-25dSYMBOL-26dSYMBOL-27dSYMBOL-29dSYMBOL-30dSYMBOL-32dSYMBOL-36dSYMBOL-37",
   "dSYMBOL-38dSYMBOL-39dSYMBOL-4dSYMBOL-40dSYMBOL-42dSYMBOL-43dSYMBOL-45dSYMBOL-47dSYMBOL-48",
   "dSYMBOL-49dSYMBOL-5dSYMBOL-50dSYMBOL-51dSYMBOL-52dSYMBOL-53dSYMBOL-54dSYMBOL-7dSYMBOL-8",
   "bKAI SYMBOLbKAPPA SYMBOLbKORONISbKYATHOS BASE SIGNbLETTER ARCHAIC KOPPAcDIGAMMAcKOPPAcSAMPI",
   "cSMALL CAPITAL GAMMAeLAMDAeOMEGAePIePSIeRHOcSTIGMAcYOTbLITRA SIGNbLOWER NUMERAL SIGN",
   "bLUNATE EPSILON SYMBOLcSIGMA SYMBOLbMETRETES SIGNbMUSICAL LEIMMAbNUMERAL SIGNbOBOL SIGN",
   "bONE HALF SIGNeALTERNATE FORMcQUARTER SIGNbOUNKIA SIGNbOXIAbPERISPOMENIbPHI SYMBOLbPI SYMBOL",
   "bPROSGEGRAMMENIbPSILIcAND OXIAdPERISPOMENIdVARIAbQUESTION MARKbREVERSED LUNATE EPSILON SYMBOL",
   "bRHO SYMBOLcWITH STROKE SYMBOLbSINUSOID SIGNbSMALL DOTTED LUNATE SIGMA SYMBOLcLETTER ALPHA",
   "eWITH DASIAgAND OXIAiAND YPOGEGRAMMENIhPERISPOMENIiAND YPOGEGRAMMENIhVARIAiAND YPOGEGRAMMENI",
   "hYPOGEGRAMMENIfMACRONfOXIAgAND YPOGEGRAMMENIfPERISPOMENIgAND YPOGEGRAMMENIfPSILIgAND OXIA",
   "iAND YPOGEGRAMMENIhPERISPOMENIiAND YPOGEGRAMMENIhVARIAiAND YPOGEGRAMMENIhYPOGEGRAMMENIfTONOS",
   "fVARIAgAND YPOGEGRAMMENIfVRACHYfYPOGEGRAMMENIdARCHAIC KOPPAeSAMPIdBETAdCHIdDELTAdDIGAMMA",
   "dEPSILONeWITH DASIAgAND OXIAhVARIAfOXIAfPSILIgAND OXIAhVARIAfTONOSfVARIAdETAeWITH DASIA",
   "gAND OXIAiAND YPOGEGRAMMENIhPERISPOMENIiAND YPOGEGRAMMENIhVARIAiAND YPOGEGRAMMENI",
   "hYPOGEGRAMMENIfOXIAgAND YPOGEGRAMMENIfPERISPOMENIgAND YPOGEGRAMMENIfPSILIgAND OXIA",
   "iAND YPOGEGRAMMENIhPERISPOMENIiAND YPOGEGRAMMENIhVARIAiAND YPOGEGRAMMENIhYPOGEGRAMMENIfTONOS",
   "fVARIAgAND YPOGEGRAMMENIfYPOGEGRAMMENIdFINAL SIGMAdGAMMAdHETAdIOTAeWITH DASIAgAND OXIA",
   "hPERISPOMENIhVARIAfDIALYTIKAgAND OXIAhPERISPOMENIhTONOShVARIAfMACRONfOXIAfPERISPOMENIfPSILI",
   "gAND OXIAhPERISPOMENIhVARIAfTONOSfVARIAfVRACHYdKAPPAdKOPPAdLAMDAdMUdNUdOMEGAeWITH DASIA",
   "gAND OXIAiAND YPOGEGRAMMENIhPERISPOMENIiAND YPOGEGRAMMENIhVARIAiAND YPOGEGRAMMENI",
   "hYPOGEGRAMMENIfOXIAgAND YPOGEGRAMMENIfPERISPOMENIgAND YPOGEGRAMMENIfPSILIgAND OXIA",
   "iAND YPOGEGRAMMENIhPERISPOMENIiAND YPOGEGRAMMENIhVARIAiAND YPOGEGRAMMENIhYPOGEGRAMMENIfTONOS",
   "fVARIAgAND YPOGEGRAMMENIfYPOGEGRAMMENIdOMICRONeWITH DASIAgAND OXIAhVARIAfOXIAfPSILIgAND OXIA",
   "hVARIAfTONOSfVARIAdPAMPHYLIAN DIGAMMAdPHIdPIdPSIdRHOeWITH DASIAfPSILIdSAMPIdSANdSHOdSIGMA",
   "dSTIGMAdTAUdTHETAdUPSILONeWITH DASIAgAND OXIAhPERISPOMENIhVARIAfDIALYTIKAgAND OXIAhPERISPOMENI",
   "hTONOShVARIAfMACRONfOXIAfPERISPOMENIfPSILIgAND OXIAhPERISPOMENIhVARIAfTONOSfVARIAfVRACHYdXI",
   "dZETAcREVERSED DOTTED LUNATE SIGMA SYMBOLdLUNATE SIGMA SYMBOLbSUBSCRIPT SMALL LETTER BETAeCHI",
   "eGAMMAePHIeRHObSYMBOL TAU RHObTALENT SIGNbTHETA SYMBOLbTHREE OBOLS SIGNcQUARTERS SIGNbTONOS",
   "bTRYBLION BASE SIGNbTWO OBOLS SIGNcTHIRDS SIGNbUPSILON WITH ACUTE AND HOOK SYMBOL",
   "dDIAERESIS AND HOOK SYMBOLdHOOK SYMBOLbVARIAbVOCAL NOTATION SYMBOL-1dSYMBOL-10dSYMBOL-11",
   "dSYMBOL-12dSYMBOL-13dSYMBOL-14dSYMBOL-15dSYMBOL-16dSYMBOL-17dSYMBOL-18dSYMBOL-19dSYMBOL-2",
   "dSYMBOL-20dSYMBOL-21dSYMBOL-22dSYMBOL-23dSYMBOL-24dSYMBOL-3dSYMBOL-4dSYMBOL-5dSYMBOL-50",
   "dSYMBOL-51dSYMBOL-52dSYMBOL-53dSYMBOL-54dSYMBOL-6dSYMBOL-7dSYMBOL-8dSYMBOL-9bXESTES SIGN",
   "bYEAR SIGNbYPOGEGRAMMENIbZERO SIGNaGREEN APPLEbBOOKbHEARTbSALADaGRIMACING FACE",
   "aGRINNING CAT FACE WITH SMILING EYESbFACEcWITH ONE LARGE AND ONE SMALL EYEdSMILING EYES",
   "dSTAR EYESaGROUP MARKbSEPARATORaGROWING HEARTaGSaGUARANI SIGNaGUARDSMANaGUIDE DOGaGUITAR",
   "aGUJARATI ABBREVIATION SIGNbDIGIT EIGHTcFIVEcFOURcNINEcONEcSEVENcSIXcTHREEcTWOcZERObLETTER A",
   "cAAcAIcAUcBAcBHAcCAcCHAcDAcDDAcDDHAcDHAcEcGAcGHAcHAcIcIIcJAcJHAcKAcKHAcLAcLLAcMAcNAcNGAcNNA",
   "cNYAcOcPAcPHAcRAcSAcSHAcSSAcTAcTHAcTTAcTTHAcUcUUcVAcVOCALIC LdLLdRdRRcYAcZHAbOMbRUPEE SIGN",
   "bSIGN ANUSVARAcAVAGRAHAcCANDRABINDUcCIRCLE NUKTA ABOVEcMADDAHcNUKTAcSHADDAcSUKUN",
   "cTHREE-DOT NUKTA ABOVEcTWO-CIRCLE NUKTA ABOVEcVIRAMAcVISARGAbVOWEL CANDRA EdOcSIGN AAdAIdAU",
   "dCANDRA EeOdEdIdIIdOdUdUUdVOCALIC LeLLeReRRaGUNJALA GONDI DIGIT EIGHTdFIVEdFOURdNINEdONEdSEVEN",
   "dSIXdTHREEdTWOdZEROcLETTER AdAAdAIdAUdBAdBHAdCAdCHAdDAdDDAdDDHAdDHAdEEdGAdGHAdHAdIdIIdJAdJHA",
   "dKAdKHAdLAdLLAdMAdNAdNGAdOOdPAdPHAdRAdSAdTAdTHAdTTAdTTHAdUdUUdVAdYAcOMcSIGN ANUSVARAdVISARGA",
   "cVIRAMAcVOWEL SIGN AAeAIeAUeEEeIeIIeOOeUeUUaGURMUKHI ABBREVIATION SIGNbADDAKbDIGIT EIGHTcFIVE",
   "cFOURcNINEcONEcSEVENcSIXcTHREEcTWOcZERObEK ONKARbIRIbLETTER AcAAcAIcAUcBAcBHAcCAcCHAcDAcDDA",
   "cDDHAcDHAcEEcFAcGAcGHAcGHHAcHAcIcIIcJAcJHAcKAcKHAcKHHAcLAcLLAcMAcNAcNGAcNNAcNYAcOOcPAcPHAcRA",
   "cRRAcSAcSHAcTAcTHAcTTAcTTHAcUcUUcVAcYAcZAbSIGN ADAK BINDIcBINDIcNUKTAcUDAATcVIRAMAcVISARGA",
   "cYAKASHbTIPPIbURAbVOWEL SIGN AAdAIdAUdEEdIdIIdOOdUdUUaHADESaHAIR SPACEaHAIRCUT",
   "aHALFWIDTH BLACK SQUAREbDOWNWARDS ARROWbFORMS LIGHT VERTICALbHANGUL FILLERcLETTER AdAEdCHIEUCH",
   "dCIEUCdEdEOdEUdHIEUHdIdIEUNGdKHIEUKHdKIYEOKdKIYEOK-SIOSdMIEUMdNIEUNdNIEUN-CIEUCdNIEUN-HIEUHdO",
   "dOEdPHIEUPHdPIEUPdPIEUP-SIOSdRIEULdRIEUL-HIEUHdRIEUL-KIYEOKdRIEUL-MIEUMdRIEUL-PHIEUPH",
   "dRIEUL-PIEUPdRIEUL-SIOSdRIEUL-THIEUTHdSIOSdSSANGCIEUCdSSANGKIYEOKdSSANGPIEUPdSSANGSIOS",
   "dSSANGTIKEUTdTHIEUTHdTIKEUTdUdWAdWAEdWEdWEOdWIdYAdYAEdYEdYEOdYIdYOdYUbIDEOGRAPHIC COMMA",
   "cFULL STOPbKATAKANA LETTER AdEdHAdHEdHIdHOdHUdIdKAdKEdKIdKOdKUdMAdMEdMIdMOdMUdNdNAdNEdNIdNOdNU",
   "dOdRAdREdRIdROdRUdSAdSEdSIdSMALL AeEeIeOeTUeUeYAeYOeYUdSOdSUdTAdTEdTIdTOdTUdUdWAdWOdYAdYOdYU",
   "cMIDDLE DOTcSEMI-VOICED SOUND MARKcVOICED SOUND MARKbKATAKANA-HIRAGANA PROLONGED SOUND MARK",
   "bLEFT CORNER BRACKETbLEFTWARDS ARROWbRIGHT CORNER BRACKETbRIGHTWARDS ARROWbUPWARDS ARROW",
   "bWHITE CIRCLEaHAMBURGERaHAMMERbAND PICKcSICKLEcWRENCHaHAMSAaHAMSTER FACE",
   "aHAND WITH INDEX AND MIDDLE FINGERS CROSSEDdFINGER AND THUMB CROSSEDaHANDBAGaHANDBALL",
   "aHANDSHAKEaHANGUL CHOSEONG CEONGCHIEUMCHIEUCHcCEONGCHIEUMCIEUCcCEONGCHIEUMSIOS",
   "cCEONGCHIEUMSSANGCIEUCcCEONGCHIEUMSSANGSIOScCHIEUCHcCHIEUCH-HIEUHcCHIEUCH-KHIEUKH",
   "cCHITUEUMCHIEUCHcCHITUEUMCIEUCcCHITUEUMSIOScCHITUEUMSSANGCIEUCcCHITUEUMSSANGSIOScCIEUC",
   "cCIEUC-IEUNGcFILLERcHIEUHcHIEUH-SIOScIEUNGcIEUNG-CHIEUCHcIEUNG-CIEUCcIEUNG-HIEUHcIEUNG-KIYEOK",
   "cIEUNG-MIEUMcIEUNG-PANSIOScIEUNG-PHIEUPHcIEUNG-PIEUPcIEUNG-RIEULcIEUNG-SIOScIEUNG-THIEUTH",
   "cIEUNG-TIKEUTcKAPYEOUNMIEUMcKAPYEOUNPHIEUPHcKAPYEOUNPIEUPcKAPYEOUNRIEULcKAPYEOUNSSANGPIEUP",
   "cKHIEUKHcKIYEOKcKIYEOK-TIKEUTcMIEUMcMIEUM-KIYEOKcMIEUM-PIEUPcMIEUM-SIOScMIEUM-TIKEUTcNIEUN",
   "cNIEUN-CIEUCcNIEUN-HIEUHcNIEUN-KIYEOKcNIEUN-PIEUPcNIEUN-SIOScNIEUN-TIKEUTcPANSIOScPHIEUPH",
   "cPHIEUPH-HIEUHcPHIEUPH-PIEUPcPIEUPcPIEUP-CHIEUCHcPIEUP-CIEUCcPIEUP-HIEUHcPIEUP-KHIEUKH",
   "cPIEUP-KIYEOKcPIEUP-NIEUNcPIEUP-PHIEUPHcPIEUP-SIOScPIEUP-SIOS-CIEUCcPIEUP-SIOS-KIYEOK",
   "cPIEUP-SIOS-PIEUPcPIEUP-SIOS-THIEUTHcPIEUP-SIOS-TIKEUTcPIEUP-SSANGSIOScPIEUP-THIEUTH",
   "cPIEUP-TIKEUTcRIEULcRIEUL-CIEUCcRIEUL-HIEUHcRIEUL-KAPYEOUNPIEUPcRIEUL-KHIEUKHcRIEUL-KIYEOK",
   "cRIEUL-MIEUMcRIEUL-NIEUNcRIEUL-PIEUPcRIEUL-SIOScRIEUL-SSANGKIYEOKcRIEUL-SSANGPIEUP",
   "cRIEUL-SSANGTIKEUTcRIEUL-TIKEUTcSIOScSIOS-CHIEUCHcSIOS-CIEUCcSIOS-HIEUHcSIOS-IEUNG",
   "cSIOS-KHIEUKHcSIOS-KIYEOKcSIOS-MIEUMcSIOS-NIEUNcSIOS-PHIEUPHcSIOS-PIEUPcSIOS-PIEUP-KIYEOK",
   "cSIOS-RIEULcSIOS-SSANGSIOScSIOS-THIEUTHcSIOS-TIKEUTcSSANGCIEUCcSSANGCIEUC-HIEUHcSSANGHIEUH",
   "cSSANGIEUNGcSSANGKIYEOKcSSANGNIEUNcSSANGPIEUPcSSANGRIEULcSSANGSIOScSSANGSIOS-PIEUP",
   "cSSANGTHIEUTHcSSANGTIKEUTcSSANGYEORINHIEUHcTHIEUTHcTIKEUTcTIKEUT-CIEUCcTIKEUT-KIYEOK",
   "cTIKEUT-MIEUMcTIKEUT-PIEUPcTIKEUT-RIEULcTIKEUT-SIOScYEORINHIEUHcYESIEUNGbDOUBLE DOT TONE MARK",
   "bFILLERbJONGSEONG CHIEUCHcCIEUCcCIEUC-PIEUPcCIEUC-SSANGPIEUPcHIEUHcHIEUH-MIEUMcHIEUH-NIEUN",
   "cHIEUH-PIEUPcHIEUH-RIEULcIEUNGcIEUNG-KHIEUKHcIEUNG-KIYEOKcIEUNG-SSANGKIYEOKcKAPYEOUNMIEUM",
   "cKAPYEOUNPHIEUPHcKAPYEOUNPIEUPcKAPYEOUNRIEULcKHIEUKHcKIYEOKcKIYEOK-CHIEUCHcKIYEOK-HIEUH",
   "cKIYEOK-KHIEUKHcKIYEOK-NIEUNcKIYEOK-PIEUPcKIYEOK-RIEULcKIYEOK-SIOScKIYEOK-SIOS-KIYEOKcMIEUM",
   "cMIEUM-CHIEUCHcMIEUM-CIEUCcMIEUM-HIEUHcMIEUM-KIYEOKcMIEUM-NIEUNcMIEUM-PANSIOScMIEUM-PIEUP",
   "cMIEUM-PIEUP-SIOScMIEUM-RIEULcMIEUM-SIOScMIEUM-SSANGNIEUNcMIEUM-SSANGSIOScNIEUNcNIEUN-CHIEUCH",
   "cNIEUN-CIEUCcNIEUN-HIEUHcNIEUN-KIYEOKcNIEUN-PANSIOScNIEUN-RIEULcNIEUN-SIOScNIEUN-THIEUTH",
   "cNIEUN-TIKEUTcPANSIOScPANSIOS-KAPYEOUNPIEUPcPANSIOS-PIEUPcPHIEUPHcPHIEUPH-PIEUPcPHIEUPH-SIOS",
   "cPHIEUPH-THIEUTHcPIEUPcPIEUP-CHIEUCHcPIEUP-CIEUCcPIEUP-HIEUHcPIEUP-MIEUMcPIEUP-PHIEUPH",
   "cPIEUP-RIEULcPIEUP-RIEUL-PHIEUPHcPIEUP-SIOScPIEUP-SIOS-TIKEUTcPIEUP-TIKEUTcRIEULcRIEUL-HIEUH",
   "cRIEUL-KAPYEOUNPIEUPcRIEUL-KHIEUKHcRIEUL-KIYEOKcRIEUL-KIYEOK-HIEUHcRIEUL-KIYEOK-SIOS",
   "cRIEUL-MIEUMcRIEUL-MIEUM-HIEUHcRIEUL-MIEUM-KIYEOKcRIEUL-MIEUM-SIOScRIEUL-NIEUNcRIEUL-PANSIOS",
   "cRIEUL-PHIEUPHcRIEUL-PIEUPcRIEUL-PIEUP-HIEUHcRIEUL-PIEUP-PHIEUPHcRIEUL-PIEUP-SIOS",
   "cRIEUL-PIEUP-TIKEUTcRIEUL-SIOScRIEUL-SSANGKIYEOKcRIEUL-SSANGSIOScRIEUL-THIEUTHcRIEUL-TIKEUT",
   "cRIEUL-TIKEUT-HIEUHcRIEUL-YEORINHIEUHcRIEUL-YEORINHIEUH-HIEUHcRIEUL-YESIEUNGcSIOScSIOS-CHIEUCH",
   "cSIOS-CIEUCcSIOS-HIEUHcSIOS-KAPYEOUNPIEUPcSIOS-KIYEOKcSIOS-MIEUMcSIOS-PANSIOScSIOS-PIEUP",
   "cSIOS-RIEULcSIOS-THIEUTHcSIOS-TIKEUTcSSANGCIEUCcSSANGIEUNGcSSANGKIYEOKcSSANGMIEUMcSSANGNIEUN",
   "cSSANGPIEUPcSSANGRIEULcSSANGRIEUL-KHIEUKHcSSANGSIOScSSANGSIOS-KIYEOKcSSANGSIOS-TIKEUT",
   "cSSANGTIKEUTcSSANGTIKEUT-PIEUPcSSANGYESIEUNGcTHIEUTHcTIKEUTcTIKEUT-CHIEUCHcTIKEUT-CIEUC",
   "cTIKEUT-KIYEOKcTIKEUT-PIEUPcTIKEUT-RIEULcTIKEUT-SIOScTIKEUT-SIOS-KIYEOKcTIKEUT-THIEUTH",
   "cYEORINHIEUHcYESIEUNGcYESIEUNG-HIEUHcYESIEUNG-KHIEUKHcYESIEUNG-KIYEOKcYESIEUNG-MIEUM",
   "cYESIEUNG-PANSIOScYESIEUNG-SIOScYESIEUNG-SSANGKIYEOKbJUNGSEONG AcA-EUcA-OcA-UcAEcARAEAcARAEA-A",
   "cARAEA-EcARAEA-EOcARAEA-IcARAEA-UcEcEOcEO-EUcEO-OcEO-UcEUcEU-AcEU-EcEU-EOcEU-EUcEU-OcEU-U",
   "cFILLERcIcI-AcI-ARAEAcI-EUcI-IcI-OcI-O-IcI-UcI-YAcI-YA-OcI-YAEcI-YEcI-YEOcI-YOcI-YUcOcO-EcO-EO",
   "cO-OcO-O-IcO-UcO-YAcO-YAEcO-YEcO-YEOcOEcSSANGARAEAcUcU-AcU-AEcU-EO-EUcU-I-IcU-UcU-YEcU-YEOcWA",
   "cWAEcWEcWEOcWIcYAcYA-OcYA-UcYA-YOcYAEcYEcYEOcYEO-OcYEO-UcYEO-YAcYIcYI-UcYOcYO-AcYO-AEcYO-EO",
   "cYO-IcYO-OcYO-YAcYO-YAEcYO-YEOcYUcYU-AcYU-AEcYU-EcYU-EOcYU-IcYU-OcYU-UcYU-YEcYU-YEObLETTER A",
   "cAEcARAEAcARAEAEcCHIEUCHcCIEUCcEcEOcEUcHIEUHcIcIEUNGcKAPYEOUNMIEUMcKAPYEOUNPHIEUPH",
   "cKAPYEOUNPIEUPcKAPYEOUNSSANGPIEUPcKHIEUKHcKIYEOKcKIYEOK-SIOScMIEUMcMIEUM-PANSIOScMIEUM-PIEUP",
   "cMIEUM-SIOScNIEUNcNIEUN-CIEUCcNIEUN-HIEUHcNIEUN-PANSIOScNIEUN-SIOScNIEUN-TIKEUTcOcOEcPANSIOS",
   "cPHIEUPHcPIEUPcPIEUP-CIEUCcPIEUP-KIYEOKcPIEUP-SIOScPIEUP-SIOS-KIYEOKcPIEUP-SIOS-TIKEUT",
   "cPIEUP-THIEUTHcPIEUP-TIKEUTcRIEULcRIEUL-HIEUHcRIEUL-KIYEOKcRIEUL-KIYEOK-SIOScRIEUL-MIEUM",
   "cRIEUL-PANSIOScRIEUL-PHIEUPHcRIEUL-PIEUPcRIEUL-PIEUP-SIOScRIEUL-SIOScRIEUL-THIEUTH",
   "cRIEUL-TIKEUTcRIEUL-YEORINHIEUHcSIOScSIOS-CIEUCcSIOS-KIYEOKcSIOS-NIEUNcSIOS-PIEUPcSIOS-TIKEUT",
   "cSSANGCIEUCcSSANGHIEUHcSSANGIEUNGcSSANGKIYEOKcSSANGNIEUNcSSANGPIEUPcSSANGSIOScSSANGTIKEUT",
   "cTHIEUTHcTIKEUTcUcWAcWAEcWEcWEOcWIcYAcYAEcYEcYEOcYEORINHIEUHcYESIEUNGcYESIEUNG-PANSIOS",
   "cYESIEUNG-SIOScYIcYOcYO-IcYO-YAcYO-YAEcYUcYU-IcYU-YEcYU-YEObSINGLE DOT TONE MARK",
   "aHANGZHOU NUMERAL EIGHTcFIVEcFOURcNINEcONEcSEVENcSIXcTENcTHIRTYcTHREEcTWENTYcTWO",
   "aHANIFI ROHINGYA DIGIT EIGHTdFIVEdFOURdNINEdONEdSEVENdSIXdTHREEdTWOdZEROcLETTER AdBAdCAdDAdDDA",
   "dFAdGAdHAdJAdKAdKHAdKINNA WAeYAdLAdMAdNAdNGAdNYAdPAdRAdRRAdSAdSHAdTAdTTAdVAdWAdYAdZA",
   "cMARK NA KHONNAdSAKINcSIGN HARBAHAYdTAHALAdTANAdTASSIcVOWEL AdEdIdOdUaHANUNOO LETTER AcBAcDA",
   "cGAcHAcIcKAcLAcMAcNAcNGAcPAcRAcSAcTAcUcWAcYAbSIGN PAMUDPODbVOWEL SIGN IdU",
   "aHAPPY PERSON RAISING ONE HANDaHARD DISKaHATCHING CHICKaHATRAN LETTER ALEPHcAYNcBETH",
   "cDALETH-RESHcGIMELcHEcHETHcKAPHcLAMEDHcMEMcNUNcPEcQOPHcSADHEcSAMEKHcSHINcTAWcTETHcWAWcYODH",
   "cZAYNbNUMBER FIVEcONEdHUNDREDcTENcTWENTYaHEADPHONEaHEADSTONEbGRAVEYARD SYMBOL",
   "aHEAR-NO-EVIL MONKEYaHEART DECORATIONbHANDSbWITH ARROWcRIBBONcTIP ON THE LEFT",
   "aHEAVY AMPERSAND ORNAMENTbARROW SHAFT WIDTH ONEfHALFfTHIRDeTWO THIRDSbASTERISKbBALLOT X",
   "bBLACK CURVED DOWNWARDS AND RIGHTWARDS ARROWdUPWARDS AND RIGHTWARDS ARROWcHEART",
   "bBLACK-FEATHERED NORTH EAST ARROWcRIGHTWARDS ARROWcSOUTH EAST ARROWbCHECK MARK",
   "bCHEVRON SNOWFLAKEbCIRCLEcWITH CIRCLE INSIDEdSTROKE AND TWO DOTS ABOVEbCIRCLED SALTIRE",
   "bCONCAVE-POINTED BLACK RIGHTWARDS ARROWbDASHED TRIANGLE-HEADED RIGHTWARDS ARROWbDIVISION SIGN",
   "bDOLLAR SIGNbDOUBLE COMMA QUOTATION MARK ORNAMENTcTURNED COMMA QUOTATION MARK ORNAMENT",
   "bDOWNWARDS ARROW WITH EQUILATERAL ARROWHEADeLARGE EQUILATERAL ARROWHEAD",
   "bEIGHT POINTED BLACK STARdPINWHEEL STARdRECTILINEAR BLACK STARcSPOKED ASTERISK",
   "cTEARDROP-SPOKED PROPELLER ASTERISKbEQUALS SIGNbEXCLAMATION MARK ORNAMENTdSYMBOL",
   "bFIVE POINTED BLACK STARcSPOKED ASTERISKbFOUR BALLOON-SPOKED ASTERISKbGREEK CROSS",
   "bHEART EXCLAMATION MARK ORNAMENTbHORIZONTAL FILLbINTERROBANG ORNAMENTbLARGE CIRCLEbLATIN CROSS",
   "bLEFT-POINTING ANGLE BRACKET ORNAMENTdQUOTATION MARK ORNAMENT",
   "bLEFTWARDS ARROW WITH EQUILATERAL ARROWHEADeLARGE EQUILATERAL ARROWHEAD",
   "bLIGATURE OPEN ET ORNAMENTbLOW DOUBLE COMMA QUOTATION MARK ORNAMENT",
   "cSINGLE COMMA QUOTATION MARK ORNAMENTbLOWER RIGHT-SHADOWED WHITE RIGHTWARDS ARROWbMINUS SIGN",
   "bMULTIPLICATION XbNORTH EAST ARROWdPOINTING BUDeVINE LEAFcWEST POINTING BUDeVINE LEAF",
   "bOPEN CENTRE CROSSbOUTLINED BLACK STARbOVAL WITH OVAL INSIDEbPLUS SIGN",
   "bRIGHT-POINTING ANGLE BRACKET ORNAMENTdQUOTATION MARK ORNAMENTbRIGHTWARDS ARROW",
   "dWITH EQUILATERAL ARROWHEADeLARGE EQUILATERAL ARROWHEADbROUND-TIPPED RIGHTWARDS ARROWbSALTIRE",
   "bSANS-SERIF INTERROBANG ORNAMENTbSCRIPT LIGATURE ET ORNAMENT",
   "bSINGLE COMMA QUOTATION MARK ORNAMENTcTURNED COMMA QUOTATION MARK ORNAMENT",
   "bSIX POINTED BLACK STARcSPOKED ASTERISKbSOUTH EAST ARROWdPOINTING BUDeVINE LEAF",
   "cWEST POINTING BUDeVINE LEAFbSPARKLEbTEARDROP-SHANKED RIGHTWARDS ARROW",
   "bTEARDROP-SPOKED ASTERISKcPINWHEEL ASTERISKbTRIANGLE-HEADED RIGHTWARDS ARROW",
   "bTWELVE POINTED BLACK STARdPINWHEEL STARbUPPER RIGHT-SHADOWED WHITE RIGHTWARDS ARROW",
   "bUPWARDS ARROW WITH EQUILATERAL ARROWHEADeLARGE EQUILATERAL ARROWHEADbVERTICAL BAR",
   "bWEDGE-TAILED RIGHTWARDS ARROWbWHITE CIRCLEcDOWN-POINTING TRIANGLEcSQUARE",
   "bWIDE-HEADED RIGHTWARDS ARROWaHEBREW ACCENT ATNAH HAFUKHcDARGAcDEHIcETNAHTAcGERESHdMUQDAM",
   "cGERSHAYIMcILUYcMAHAPAKHcMERKHAdKEFULAcMUNAHcOLEcPASHTAcPAZERcQADMAcQARNEY PARAcREVIAcSEGOL",
   "cSHALSHELETcTELISHA GEDOLAdQETANAcTEVIRcTIPEHAcYERAH BEN YOMOcYETIVcZAQEF GADOLdQATANcZARQA",
   "cZINORbLETTER ALEFdWITH MAPIQePATAHeQAMATScALTERNATIVE AYINdPLUS SIGNcAYINcBETdWITH DAGESH",
   "eRAFEcDALETdWITH DAGESHcFINAL KAFeWITH DAGESHdMEMdNUNdPEeWITH DAGESHdTSADIcGIMELdWITH DAGESH",
   "cHEdWITH MAPIQcHETcKAFdWITH DAGESHeRAFEcLAMEDdWITH DAGESHcMEMdWITH DAGESHcNUNdWITH DAGESHcPE",
   "dWITH DAGESHeRAFEcQOFdWITH DAGESHcRESHdWITH DAGESHcSAMEKHdWITH DAGESHcSHINdWITH DAGESH",
   "fAND SHIN DOTgSIN DOTeSHIN DOTeSIN DOTcTAVdWITH DAGESHcTETdWITH DAGESHcTSADIdWITH DAGESHcVAV",
   "dWITH DAGESHeHOLAMcWIDE ALEFdDALETdFINAL MEMdHEdKAFdLAMEDdRESHdTAVcYODdWITH DAGESHeHIRIQcZAYIN",
   "dWITH DAGESHbLIGATURE ALEF LAMEDcYIDDISH DOUBLE VAVeYODdVAV YODdYOD YOD PATAHbMARK LOWER DOT",
   "cMASORA CIRCLEcUPPER DOTbPOINT DAGESH OR MAPIQcHATAF PATAHdQAMATSdSEGOLcHIRIQcHOLAM",
   "dHASER FOR VAVcJUDEO-SPANISH VARIKAcMETEGcPATAHcQAMATSdQATANcQUBUTScRAFEcSEGOLcSHEVAcSHIN DOT",
   "cSIN DOTcTSEREbPUNCTUATION GERESHcGERSHAYIMcMAQAFcNUN HAFUKHAcPASEQcSOF PASUQbYOD TRIANGLE",
   "aHEDGEHOGaHELICOPTERaHELLSCHREIBER PAUSE SYMBOLaHELM SYMBOLaHELMET WITH WHITE CROSS",
   "aHENTAIGANA LETTER A-1cA-2cA-3cA-WOcE-1cE-2cE-3cE-4cE-5cE-6cHA-1cHA-10cHA-11cHA-2cHA-3cHA-4",
   "cHA-5cHA-6cHA-7cHA-8cHA-9cHE-1cHE-2cHE-3cHE-4cHE-5cHE-6cHE-7cHI-1cHI-2cHI-3cHI-4cHI-5cHI-6",
   "cHI-7cHO-1cHO-2cHO-3cHO-4cHO-5cHO-6cHO-7cHO-8cHU-1cHU-2cHU-3cI-1cI-2cI-3cI-4cKA-1cKA-10cKA-11",
   "cKA-2cKA-3cKA-4cKA-5cKA-6cKA-7cKA-8cKA-9cKA-KEcKE-1cKE-2cKE-3cKE-4cKE-5cKE-6cKI-1cKI-2cKI-3",
   "cKI-4cKI-5cKI-6cKI-7cKI-8cKO-1cKO-2cKO-3cKO-KIcKU-1cKU-2cKU-3cKU-4cKU-5cKU-6cKU-7cMA-1cMA-2",
   "cMA-3cMA-4cMA-5cMA-6cMA-7cME-1cME-2cME-MAcMI-1cMI-2cMI-3cMI-4cMI-5cMI-6cMI-7cMO-1cMO-2cMO-3",
   "cMO-4cMO-5cMO-6cMU-1cMU-2cMU-3cMU-4cN-MU-MO-1cN-MU-MO-2cNA-1cNA-2cNA-3cNA-4cNA-5cNA-6cNA-7",
   "cNA-8cNA-9cNE-1cNE-2cNE-3cNE-4cNE-5cNE-6cNE-KOcNI-1cNI-2cNI-3cNI-4cNI-5cNI-6cNI-7cNI-TEcNO-1",
   "cNO-2cNO-3cNO-4cNO-5cNU-1cNU-2cNU-3cO-1cO-2cO-3cRA-1cRA-2cRA-3cRA-4cRE-1cRE-2cRE-3cRE-4cRI-1",
   "cRI-2cRI-3cRI-4cRI-5cRI-6cRI-7cRO-1cRO-2cRO-3cRO-4cRO-5cRO-6cRU-1cRU-2cRU-3cRU-4cRU-5cRU-6",
   "cSA-1cSA-2cSA-3cSA-4cSA-5cSA-6cSA-7cSA-8cSE-1cSE-2cSE-3cSE-4cSE-5cSI-1cSI-2cSI-3cSI-4cSI-5",
   "cSI-6cSO-1cSO-2cSO-3cSO-4cSO-5cSO-6cSO-7cSU-1cSU-2cSU-3cSU-4cSU-5cSU-6cSU-7cSU-8cTA-1cTA-2",
   "cTA-3cTA-4cTE-1cTE-2cTE-3cTE-4cTE-5cTE-6cTE-7cTE-8cTE-9cTI-1cTI-2cTI-3cTI-4cTI-5cTI-6cTI-7",
   "cTO-1cTO-2cTO-3cTO-4cTO-5cTO-6cTO-RAcTU-1cTU-2cTU-3cTU-4cTU-TOcU-1cU-2cU-3cU-4cU-5cWA-1cWA-2",
   "cWA-3cWA-4cWA-5cWE-1cWE-2cWE-3cWE-4cWI-1cWI-2cWI-3cWI-4cWI-5cWO-1cWO-2cWO-3cWO-4cWO-5cWO-6",
   "cWO-7cYA-1cYA-2cYA-3cYA-4cYA-5cYA-YOcYO-1cYO-2cYO-3cYO-4cYO-5cYO-6cYU-1cYU-2cYU-3cYU-4aHERB",
   "aHERMITIAN CONJUGATE MATRIXaHEXAGRAM FOR ABUNDANCEcAFTER COMPLETIONcAPPROACHcBEFORE COMPLETION",
   "cBITING THROUGHcBREAKTHROUGHcCOMING TO MEETcCONFLICTcCONTEMPLATIONcDARKENING OF THE LIGHT",
   "cDECREASEcDELIVERANCEcDEVELOPMENTcDIFFICULTY AT THE BEGINNINGcDISPERSIONcDURATIONcENTHUSIASM",
   "cFELLOWSHIPcFOLLOWINGcGATHERING TOGETHERcGRACEcGREAT POSSESSIONdPOWERdPREPONDERANCEdTAMING",
   "cHOLDING TOGETHERcINCREASEcINFLUENCEcINNER TRUTHcINNOCENCEcLIMITATIONcMODESTYcMOUTH CORNERS",
   "cOBSTRUCTIONcOPPOSITIONcOPPRESSIONcPEACEcPROGRESScPUSHING UPWARDcRETREATcRETURNcREVOLUTION",
   "cSMALL PREPONDERANCEdTAMINGcSPLITTING APARTcSTANDSTILLcTHE ABYSMAL WATERdARMYdAROUSING THUNDER",
   "dCAULDRONdCLINGING FIREdCREATIVE HEAVENdFAMILYdGENTLE WINDdJOYOUS LAKEdKEEPING STILL MOUNTAIN",
   "dMARRYING MAIDENdRECEPTIVE EARTHdWANDERERdWELLcTREADINGcWAITINGcWORK ON THE DECAYED",
   "cYOUTHFUL FOLLYaHIBISCUSaHIGH BRIGHTNESS SYMBOLbOCTET PRESETbVOLTAGE SIGNaHIGH-HEELED SHOE",
   "aHIGH-SPEED TRAINcWITH BULLET NOSEaHIKING BOOTaHINDU TEMPLEaHIPPOPOTAMUSaHIRAGANA DIGRAPH YORI",
   "bITERATION MARKbLETTER AcARCHAIC WUdYEcBAcBEcBIcBOcBUcDAcDEcDIcDOcDUcEcGAcGEcGIcGOcGUcHAcHEcHI",
   "cHOcHUcIcKAcKEcKIcKOcKUcMAcMEcMIcMOcMUcNcNAcNEcNIcNOcNUcOcPAcPEcPIcPOcPUcRAcREcRIcROcRUcSAcSE",
   "cSIcSMALL AdEdIdKAdKEdOdTUdUdWAdWEdWIdWOdYAdYOdYUcSOcSUcTAcTEcTIcTOcTUcUcVUcWAcWEcWIcWOcYAcYO",
   "cYUcZAcZEcZIcZOcZUbVOICED ITERATION MARKaHISTORIC SITEaHOCHOaHOLEaHOLLOW QUILT SQUARE ORNAMENT",
   "eIN BLACK SQUAREaHOMOTHETICaHONEY POTaHONEYBEEaHOOKaHOPaHORIZONTAL BARbBLACK HEXAGONcOCTAGON",
   "bELLIPSISbLINE EXTENSIONbMALE WITH STROKE SIGNbONE EIGHTH BLOCK-1358dBLOCK-2dBLOCK-3dBLOCK-4",
   "dBLOCK-5dBLOCK-6dBLOCK-7bSCAN LINE-1cLINE-3cLINE-7cLINE-9bTAB KEYbTABULATIONcSET",
   "cWITH JUSTIFICATIONbTRAFFIC LIGHTaHORSEbFACEbRACINGaHOSPITALaHOT BEVERAGEbDOGbPEPPERbSPRINGS",
   "aHOTELaHOURGLASSbWITH FLOWING SANDaHOUSEbBUILDINGbBUILDINGSbWITH GARDENaHRYVNIA SIGNaHTaHTJ",
   "aHTSaHUGGING FACEaHUNDRED POINTS SYMBOLaHUSHED FACEaHUTaHYGIEAaHYPHENbBULLETbWITH DIAERESIS",
   "aHYPHEN-MINUSaHYPHENATION POINTaHYPODIASTOLEaHYSTERESIS SYMBOLaI LOVE YOU HAND SIGNaICE CREAM",
   "bCUBEbHOCKEY STICK AND PUCKbSKATEaIDENTICAL TOcAND SLANTED PARALLELbWITH DOT ABOVE",
   "aIDENTIFICATION CARDaIDEOGRAPHIC ANNOTATION BOTTOM MARKcEARTH MARKcFIRST MARKcFOUR MARK",
   "cFOURTH MARKcHEAVEN MARKcLINKING MARKcMAN MARKcMIDDLE MARKcONE MARKcREVERSE MARKcSECOND MARK",
   "cTHIRD MARKcTHREE MARKcTOP MARKcTWO MARKbCLOSING MARKbCOMMAbDEPARTING TONE MARK",
   "bDESCRIPTION CHARACTER ABOVE TO BELOWfMIDDLE AND BELOWdFULL SURROUNDdLEFT TO MIDDLE AND RIGHT",
   "fRIGHTdOVERLAIDdSURROUND FROM ABOVEfBELOWfLEFTfLOWER LEFTfUPPER LEFTgRIGHTbENTERING TONE MARK",
   "bFULL STOPbHALF FILL SPACEbITERATION MARKbLEVEL TONE MARKbNUMBER ZERObRISING TONE MARKbSPACE",
   "bTALLY MARK FIVEdFOURdONEdTHREEdTWObTELEGRAPH LINE FEED SEPARATOR SYMBOLcSYMBOL FOR APRIL",
   "eAUGUSTeDAY EIGHTfEIGHTEENfELEVENfFIFTEENfFIVEfFOURfFOURTEENfNINEfNINETEENfONEfSEVENfSEVENTEEN",
   "fSIXfSIXTEENfTENfTHIRTEENfTHIRTYfTHIRTY-ONEfTHREEfTWELVEfTWENTYfTWENTY-EIGHTfTWENTY-FIVE",
   "fTWENTY-FOURfTWENTY-NINEfTWENTY-ONEfTWENTY-SEVENfTWENTY-SIXfTWENTY-THREEfTWENTY-TWOfTWO",
   "eDECEMBEReFEBRUARYeHOUR EIGHTfEIGHTEENfELEVENfFIFTEENfFIVEfFOURfFOURTEENfNINEfNINETEENfONE",
   "fSEVENfSEVENTEENfSIXfSIXTEENfTENfTHIRTEENfTHREEfTWELVEfTWENTYfTWENTY-FOURfTWENTY-ONE",
   "fTWENTY-THREEfTWENTY-TWOfTWOfZEROeJANUARYeJULYeJUNEeMARCHeMAYeNOVEMBEReOCTOBEReSEPTEMBER",
   "bVARIATION INDICATORaIMAGE OFcOR APPROXIMATELY EQUAL TOaIMPaIMPERIAL ARAMAIC LETTER ALEPHdAYIN",
   "dBETHdDALETHdGIMELdHEdHETHdKAPHdLAMEDHdMEMdNUNdPEdQOPHdRESHdSADHEdSAMEKHdSHINdTAWdTETHdWAW",
   "dYODHdZAYINcNUMBER ONEeHUNDREDeTHOUSANDdTENeTHOUSANDdTHREEdTWENTYdTWOcSECTION SIGNaINBOX TRAY",
   "aINCOMING ENVELOPEaINCOMPLETE INFINITYaINCREASE FONT SIZE SYMBOLaINCREASES ASaINCREMENTaIND",
   "aINDEXbPOINTING AT THE VIEWERaINDIAN RUPEE SIGNaINDIC SIYAQ ALTERNATE LAKH MARK",
   "cFRACTION ONE HALFeQUARTERdTHREE QUARTERScLAKH MARKcNUMBER ALTERNATE ONEeTEN THOUSANDeTWO",
   "dEIGHTeHUNDREDeTHOUSANDdEIGHTYeTHOUSANDdFIFTYeTHOUSANDdFIVEeHUNDREDeTHOUSANDdFORTYeTHOUSAND",
   "dFOUReHUNDREDeTHOUSANDdKARORdKARORANdLAKHdLAKHANdNINEeHUNDREDeTHOUSANDdNINETYeTHOUSANDdONE",
   "eHUNDREDeTHOUSANDdPREFIXED EIGHTeFIVEeFOUReNINEeONEeSEVENeSIXeTHREEeTWOdSEVENeHUNDREDeTHOUSAND",
   "dSEVENTYeTHOUSANDdSIXeHUNDREDeTHOUSANDdSIXTYeTHOUSANDdTENeTHOUSANDdTHIRTYeTHOUSANDdTHREE",
   "eHUNDREDeTHOUSANDdTWENTYeTHOUSANDdTWOeHUNDREDeTHOUSANDcPLACEHOLDERcRUPEE MARKaINFINITY",
   "bNEGATED WITH VERTICAL BARaINFORMATION DESK PERSONbSEPARATOR FOURcONEcTHREEcTWObSOURCE",
   "aINHIBIT ARABIC FORM SHAPINGbSYMMETRIC SWAPPINGaINPUT SYMBOL FOR LATIN CAPITAL LETTERSeLETTERS",
   "eSMALL LETTERSdNUMBERSdSYMBOLSaINSCRIPTIONAL PAHLAVI LETTER ALEPHdBETHdDALETHdGIMELdHEdHETH",
   "dKAPHdLAMEDHdMEM-QOPHdNUNdPEdSADHEdSAMEKHdSHINdTAWdTETHdWAW-AYIN-RESHdYODHdZAYINcNUMBER FOUR",
   "dONEeHUNDREDeTHOUSANDdTENdTHREEdTWENTYdTWObPARTHIAN LETTER ALEPHdAYINdBETHdDALETHdGIMELdHE",
   "dHETHdKAPHdLAMEDHdMEMdNUNdPEdQOPHdRESHdSADHEdSAMEKHdSHINdTAWdTETHdWAWdYODHdZAYINcNUMBER FOUR",
   "dONEeHUNDREDeTHOUSANDdTENdTHREEdTWENTYdTWOaINSERTION SYMBOLaINTEGRALbAROUND A POINT OPERATOR",
   "bAVERAGE WITH SLASHbEXTENSIONbWITH DOUBLE STROKEcINTERSECTIONcLEFTWARDS ARROW WITH HOOK",
   "cOVERBARcTIMES SIGNcUNDERBARcUNIONaINTERCALATEaINTERIOR PRODUCTaINTERLINEAR ANNOTATION ANCHOR",
   "cSEPARATORcTERMINATORaINTERLOCKED FEMALE AND MALE SIGNaINTERROBANGaINTERSECTION",
   "bABOVE BAR ABOVE UNIONcUNIONbBESIDE AND JOINED WITH INTERSECTIONbWITH DOTcLOGICAL ANDcOVERBAR",
   "aINVERSE BULLETbCHECK MARKbCHECKER BOARD FILLbDOWNWARDS ARROW WITH TIP LEFTWARDSbMEDIUM SHADE",
   "bWHITE CIRCLEaINVERTED EXCLAMATION MARKbINTERROBANGbLAZY SbLOW KAVYKAdWITH KAVYKA ABOVE",
   "bOHM SIGNbPENTAGRAMbQUESTION MARKbUNDERTIEaINVISIBLE PLUSbSEPARATORbTIMESaIZAKAYA LANTERN",
   "aJACK-O-LANTERNaJAPANESE BANK SYMBOLbCASTLEbDOLLSbGOBLINbINDUSTRIAL STANDARD SYMBOLbOGRE",
   "bPOST OFFICEbSYMBOL FOR BEGINNERaJARaJAVANESE CONSONANT SIGN CAKRAdKERETdPENGKALbDIGIT EIGHT",
   "cFIVEcFOURcNINEcONEcSEVENcSIXcTHREEcTWOcZERObLEFT RERENGGANbLETTER AcAIcBAdMURDAcCAdMURDAcDA",
   "dMAHAPRANAcDDAdMAHAPRANAcEcGAdMURDAcHAcIdKAWIcIIcJAdMAHAPRANAcKAdMURDAdSASAKcLAcMAcNAdMURDA",
   "cNGAdLELETeRASWADIcNYAdMURDAcOcPAdCEREKdMURDAcRAdAGUNGcSAdMAHAPRANAdMURDAcTAdMURDAcTTA",
   "dMAHAPRANAcUcWAcYAbPADA ADEGdADEGcANDAPcISEN-ISENcLINGSAcLUHURcLUNGSIcMADYAcPANGKATcPISELEH",
   "cTIRTA TUMETEScWINDUbPANGKONbPANGRANGKEPbRIGHT RERENGGANbSIGN CECAKdTELUcLAYARcPANYANGGA",
   "cWIGNYANbTURNED PADA PISELEHbVOWEL SIGN DIRGA MUREdPEPETdSUKUeMENDUTdTALINGdTARUNGdTOLONGdWULU",
   "eMELIKaJEANSaJIGSAW PUZZLE PIECEaJOINaJOYSTICKaJUGGLINGaJUNOaJUPITERaKAABA",
   "aKAITHI ABBREVIATION SIGNbDANDAbDOUBLE DANDAcSECTION MARKbENUMERATION SIGNbLETTER AcAAcAIcAU",
   "cBAcBHAcCAcCHAcDAcDDAcDDDHAcDDHAcDHAcEcGAcGHAcHAcIcIIcJAcJHAcKAcKHAcLAcMAcNAcNGAcNNAcNYAcOcPA",
   "cPHAcRAcRHAcSAcSHAcSSAcTAcTHAcTTAcTTHAcUcUUcVAcYAbNUMBER SIGNdABOVEbSECTION MARKbSIGN ANUSVARA",
   "cCANDRABINDUcNUKTAcVIRAMAcVISARGAbVOWEL SIGN AAdAIdAUdEdIdIIdOdUdUUdVOCALIC RaKANGAROO",
   "aKANGXI RADICAL AGAINcANDcARRIVEcARROWcAXEcBADGERcBAMBOOcBEANcBIGcBIRDcBITTERcBLACKcBLOODcBLUE",
   "cBOATcBODYcBOLT OF CLOTHcBONEcBOWcBRANCHcBRISTLEcBRUSHcCARTcCAULDRONcCAVEcCHILDcCITYcCLANcCLAW",
   "cCLIFFcCLOTHEScCOLORcCOMPAREcCORPSEcCOVERcCOWcDEATHcDEERcDIPPERcDISHcDISTINGUISHcDIVINATION",
   "cDO NOTcDOGcDOORcDOTcDOTTED CLIFFdTENTcDOUBLE XcDOWN BOXcDRAGONcDRUMcDRYcEARcEARTHcEATcEIGHT",
   "cEMBROIDERYcENCLOSUREcENTERcEVENcEVENINGcEYEcFACEcFANGcFATHERcFEATHERcFIELDcFIGHTcFIREcFISH",
   "cFLUTEcFLYcFOOTcFRAGRANTcFROGcFURcGATEcGHOSTcGOdSLOWLYcGOLDcGRAINcGRASScHAIRcHALBERD",
   "cHALF TREE TRUNKcHANDcHEADcHEARTcHEMPcHIDING ENCLOSUREcHOOKcHORNcHORSEcICEcINCHcINSECTcJADE",
   "cJARcKNIFEcLACKcLAMEcLEAFcLEATHERcLEEKcLEGScLIDcLIFEcLINEcLONGdSTRIDEcMANcMEATcMELONcMILLET",
   "cMINISTERcMOONcMORNINGcMORTARcMOUNDcMOUNTAINcMOUTHcNETcNOSEcNOTcOLDcONEcONESELFcOPEN BOX",
   "cOPPOSEcPIGcPLOWcPOWERcPRIVATEcPROFOUNDcRAINcRAPcRATcREDcRICEcRIGHT OPEN BOXcRIVERcROOFcRUN",
   "cSACRIFICIAL WINEcSALTcSAYcSCHOLARcSCRIPTcSEALcSECONDcSEEcSELFcSHEEPcSHELLcSHOOT",
   "cSHORT TAILED BIRDdTHREADcSICKNESScSILKcSKINcSLASHcSLAVEcSLICEcSMALLcSNOUTcSOUNDcSPEARcSPEECH",
   "cSPIRITcSPOONcSPROUTcSQUAREcSTANDcSTEAMcSTEPcSTONEcSTOPcSTOPPINGcSUNcSWEETcTABLEcTALL",
   "cTANNED LEATHERcTENcTIGERcTILEcTONGUEcTOOTHcTRACKcTREEcTRIPODcTURBANcTURTLEcTWOdHANDScUSE",
   "cVALLEYcVILLAGEcWALKdENCLOSUREcWATERcWEAPONcWESTcWHEATcWHITEcWINDcWINEcWOMANcWORKcWRAPcWRONG",
   "cYELLOWaKANNADA AI LENGTH MARKbDIGIT EIGHTcFIVEcFOURcNINEcONEcSEVENcSIXcTHREEcTWOcZERO",
   "bLENGTH MARKbLETTER AcAAcAIcAUcBAcBHAcCAcCHAcDAcDDAcDDHAcDHAcEcEEcFAcGAcGHAcHAcIcIIcJAcJHAcKA",
   "cKHAcLAcLLAcLLLAcMAcNAcNAKAARA POLLUcNGAcNNAcNYAcOcOOcPAcPHAcRAcRRAcSAcSHAcSSAcTAcTHAcTTAcTTHA",
   "cUcUUcVAcVOCALIC LdLLdRdRRcYAbSIGN ANUSVARAcAVAGRAHAcCANDRABINDUcJIHVAMULIYAcNUKTAcSIDDHAM",
   "cSPACING CANDRABINDUcUPADHMANIYAcVIRAMAcVISARGAbVOWEL SIGN AAdAIdAUdEdEEdIdIIdOdOOdUdUU",
   "dVOCALIC LeLLeReRRaKATAKANA DIGRAPH KOTObITERATION MARKbLETTER AcARCHAIC EdWUdYEdYIcBAcBEcBI",
   "cBOcBUcDAcDEcDIcDOcDUcEcGAcGEcGIcGOcGUcHAcHEcHIcHOcHUcIcKAcKEcKIcKOcKUcMAcMEcMI",
   "cMINNAN NASALIZED TONE-1eTONE-2eTONE-3eTONE-4eTONE-5eTONE-7eTONE-8dTONE-2dTONE-3dTONE-4dTONE-5",
   "dTONE-7dTONE-8cMOcMUcNcNAcNEcNIcNOcNUcOcPAcPEcPIcPOcPUcRAcREcRIcROcRUcSAcSEcSIcSMALL AdEdHAdHE",
   "dHIdHOdHUdIdKAdKEdKUdMUdNdNUdOdRAdREdRIdROdRUdSIdSUdTOdTUdUdWAdWEdWIdWOdYAdYOdYUcSOcSUcTAcTE",
   "cTIcTOcTUcUcVAcVEcVIcVOcVUcWAcWEcWIcWOcYAcYOcYUcZAcZEcZIcZOcZUbMIDDLE DOT",
   "bVOICED ITERATION MARKaKATAKANA-HIRAGANA DOUBLE HYPHENbPROLONGED SOUND MARK",
   "bSEMI-VOICED SOUND MARKbVOICED SOUND MARKaKAYAH LI DIGIT EIGHTdFIVEdFOURdNINEdONEdSEVENdSIX",
   "dTHREEdTWOdZEROcLETTER AdBAdCAdDAdGAdHAdHTAdIdKAdKHAdLAdMAdNAdNGAdNYAdOEdOOdPAdPHAdRAdSAdSHA",
   "dTAdTHAdVAdWAdYAdZAcSIGN CWIdSHYAcTONE CALYAePLOPHUdPLOPHUcVOWEL EdEEdOdUdUEaKELVIN SIGNaKEY",
   "aKEYBOARDbAND MOUSEaKEYCAP TENaKHAROSHTHI DIGIT FOURcONEcTHREEcTWObFRACTION ONE HALFbLETTER A",
   "cBAcBHAcCAcCHAcDAcDDAcDDHAcDHAcGAcGHAcHAcJAcKAcKHAcKKAcLAcMAcNAcNNAcNYAcPAcPHAcRAcSAcSHAcSSA",
   "cTAcTHAcTTAcTTHAcTTTAcTTTHAcVAcVHAcYAcZAbNUMBER ONE HUNDREDdTHOUSANDcTENcTWENTY",
   "bPUNCTUATION CIRCLEcCRESCENT BARcDANDAcDOTcDOUBLE DANDAcLINEScLOTUScMANGALAMcSMALL CIRCLE",
   "bSIGN ANUSVARAcBAR ABOVEcCAUDAcDOT BELOWcDOUBLE RING BELOWcVISARGAbVIRAMAbVOWEL LENGTH MARK",
   "cSIGN EdIdOdUdVOCALIC RaKHITAN SMALL SCRIPT FILLERaKHMER CURRENCY SYMBOL RIELbDIGIT EIGHTcFIVE",
   "cFOURcNINEcONEcSEVENcSIXcTHREEcTWOcZERObINDEPENDENT VOWEL LYdLYYdQAAdQAIdQAQdQAUdQEdQIdQII",
   "dQOO TYPE ONEfTWOdQUdQUKdQUUdQUUVdRYdRYYbLETTER BAcCAcCHAcCHOcCOcDAcDOcHAcKAcKHAcKHOcKOcLAcLO",
   "cMOcNGOcNNOcNOcNYOcPHAcPHOcPOcQAcROcSAcSHAcSSOcTAcTHAcTHOcTOcTTHAcTTHOcVOcYObSIGN AHSDA",
   "cATTHACANcAVAKRAHASANYAcBANTOCcBARIYOOSANcBATHAMASATcBEYYALcCAMNUC PII KUUHcCOENGcKAKABATcKHAN",
   "cKOOMUUTcLEK TOOcMUUSIKATOANcNIKAHITcPHNAEK MUANcREAHMUKcROBATcSAMYOK SANNYAcTOANDAKHIAT",
   "cTRIISAPcVIRIAMcYUUKALEAPINTUbSYMBOL BEI KOETdROCcBUON KOETdROCcDAP KOETdROCcDAP-BEI KOETdROC",
   "cDAP-BUON KOETdROCcDAP-MUOY KOETdROCcDAP-PII KOETdROCcDAP-PRAM KOETdROCcLEK ATTAK BEIeBUON",
   "eMUOYePIIePRAMePRAM-BEIePRAM-BUONePRAM-MUOYePRAM-PIIeSONcMUOY KOETdROCcPATHAMASATcPII KOETdROC",
   "cPRAM KOETdROCcPRAM-BEI KOETdROCcPRAM-BUON KOETdROCcPRAM-MUOY KOETdROCcPRAM-PII KOETdROC",
   "cTUTEYASATbVOWEL INHERENT AAdAQcSIGN AAdAEdAIdAUdEdIdIEdIIdOEdOOdUdUAdUUdYdYAdYY",
   "aKHOJKI ABBREVIATION SIGNbDANDAbDOUBLE DANDAcSECTION MARKbLETTER AcAAcAIcAUcBAcBBAcBHAcCAcCHA",
   "cDAcDDAcDDDAcDDHAcDHAcEcGAcGGAcGHAcHAcIcJAcJJAcKAcKHAcLAcLLAcMAcNAcNGAcNNAcNYAcOcPAcPHAcRAcSA",
   "cTAcTHAcTTAcTTHAcUcVAcYAbSECTION MARKbSIGN ANUSVARAcNUKTAcSHADDAcSUKUNcVIRAMAbVOWEL SIGN AAdAI",
   "dAUdEdIdIIdOdUbWORD SEPARATORaKHUDAWADI DIGIT EIGHTcFIVEcFOURcNINEcONEcSEVENcSIXcTHREEcTWO",
   "cZERObLETTER AcAAcAIcAUcBAcBBAcBHAcCAcCHAcDAcDDAcDDDAcDDHAcDHAcEcGAcGGAcGHAcHAcIcIIcJAcJHAcJJA",
   "cKAcKHAcLAcMAcNAcNGAcNNAcNYAcOcPAcPHAcRAcRRAcSAcSHAcTAcTHAcTTAcTTHAcUcUUcVAcYAbSIGN ANUSVARA",
   "cNUKTAcVIRAMAbVOWEL SIGN AAdAIdAUdEdIdIIdOdUdUUaKIMONOaKIP SIGNaKISSbMARK",
   "aKISSING CAT FACE WITH CLOSED EYESbFACEcWITH CLOSED EYESdSMILING EYESaKITEaKIWIFRUIT",
   "aKNEELING PERSONaKNOTaKOALAaKOREAN STANDARD SYMBOLaKRONOS"]

end FragmentImports.CharacterName
