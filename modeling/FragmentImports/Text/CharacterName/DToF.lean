namespace FragmentImports.CharacterName

def fromDToF : List String :=
  ["aDAGGERbKNIFEbWITH LEFT GUARDcRIGHT GUARDaDALET SYMBOLaDANCERaDANGOaDARK SHADEbSUNGLASSES",
   "aDASH SYMBOLbWITH LEFT UPTURNaDASHED LOW LINEbOVERLINEbTRIANGLE-HEADED RIGHTWARDS ARROW",
   "aDATA LINK ESCAPEaDC1aDC2aDC3aDC4aDCSaDEAF PERSONaDECIDUOUS TREEaDECIMAL EXPONENT SYMBOL",
   "bSEPARATOR KEY SYMBOLaDECREASE FONT SIZE SYMBOLaDEERaDEGREE CELSIUSbFAHRENHEITbSIGNaDELaDELETE",
   "aDELIVERY TRUCKaDELTA EQUAL TOaDENTISTRY SYMBOL LIGHT DOWN AND HORIZONTALgWITH CIRCLEhTRIANGLE",
   "hWAVEdUP AND HORIZONTALgWITH CIRCLEhTRIANGLEhWAVEdVERTICAL AND BOTTOM LEFTgRIGHTfTOP LEFT",
   "gRIGHTfWAVEeWITH CIRCLEfTRIANGLEaDEPARTMENT STOREaDERELICT HOUSE BUILDINGaDESCENDING NODE",
   "aDESERET CAPITAL LETTER AYdBEEdCHEEdDEEdEFdELdEMdENdENGdERdESdESHdETHdEWdGAYdHdJEEdKAYdLONG A",
   "eAHeEeIeOeOOdOIdOWdPEEdSHORT AeAHeEeIeOeOOdTEEdTHEEdVEEdWUdYEEdZEEdZHEEbSMALL LETTER AYdBEE",
   "dCHEEdDEEdEFdELdEMdENdENGdERdESdESHdETHdEWdGAYdHdJEEdKAYdLONG AeAHeEeIeOeOOdOIdOWdPEEdSHORT A",
   "eAHeEeIeOeOOdTEEdTHEEdVEEdWUdYEEdZEEdZHEEaDESERTbISLANDaDESKTOP COMPUTERbWINDOW",
   "aDEVANAGARI ABBREVIATION SIGNbACUTE ACCENTbCARETbDANDAbDIGIT EIGHTcFIVEcFOURcNINEcONEcSEVEN",
   "cSIXcTHREEcTWOcZERObDOUBLE DANDAbGAP FILLERbGRAVE ACCENTbHEADSTROKEbJAIN OMbLETTER AcAAcAIcAU",
   "cAWcAYcBAcBBAcBHAcCAcCANDRA AdEdOcCHAcDAcDDAcDDDAcDDDHAcDDHAcDHAcEcFAcGAcGGAcGHAcGHHA",
   "cGLOTTAL STOPcHAcHEAVY YAcIcIIcJAcJHAcJJAcKAcKHAcKHHAcLAcLLAcLLLAcMAcMARWARI DDAcNAcNGAcNNA",
   "cNNNAcNYAcOcOEcOOEcPAcPHAcQAcRAcRHAcRRAcSAcSHAcSHORT AdEdOcSSAcTAcTHAcTTAcTTHAcUcUEcUUcUUEcVA",
   "cVOCALIC LdLLdRdRRcYAcYYAcZAcZHAbOMbSIGN ANUSVARAcAVAGRAHAcCANDRABINDUdAVAGRAHAdTHREEdTWO",
   "dVIRAMAcDOUBLE CANDRABINDU VIRAMAcHIGH SPACING DOTcINVERTED CANDRABINDUcNUKTAcPUSHPIKAcSIDDHAM",
   "cSPACING CANDRABINDUcVIRAMAcVISARGAbSTRESS SIGN ANUDATTAdUDATTAbVOWEL SIGN AAdAIdAUdAWdAY",
   "dCANDRA EeLONG EeOdEdIdIIdOdOEdOOEdPRISHTHAMATRA EdSHORT EeOdUdUEdUUdUUEdVOCALIC LeLLeReRR",
   "aDEVICE CONTROL FOURcONEcSTRINGcTHREEcTWOaDIAERESISaDIAMETER SIGNaDIAMOND OPERATOR",
   "bSHAPE WITH A DOT INSIDEbTARGETbWITH BOTTOM HALF BLACKcLEFT HALF BLACKcRIGHT HALF BLACK",
   "cTOP HALF BLACKaDIE FACE-1bFACE-2bFACE-3bFACE-4bFACE-5bFACE-6aDIESEL LOCOMOTIVE",
   "aDIFFERENCE BETWEENaDIGIT EIGHTcCOMMAcFULL STOPbFIVEcCOMMAcFULL STOPbFOURcCOMMAcFULL STOPbNINE",
   "cCOMMAcFULL STOPbONEcCOMMAcFULL STOPbSEVENcCOMMAcFULL STOPbSIXcCOMMAcFULL STOPbTHREEcCOMMA",
   "cFULL STOPbTWOcCOMMAcFULL STOPbZEROcCOMMAcFULL STOPaDIGRAM FOR EARTHcEARTHLY HEAVENdHUMAN",
   "cGREATER YANGdYINcHEAVENLY EARTHcHUMAN EARTHcLESSER YANGdYINaDIMENSION ORIGIN",
   "aDINGBAT CIRCLED SANS-SERIF DIGIT EIGHTeFIVEeFOUReNINEeONEeSEVENeSIXeTHREEeTWOeZEROdNUMBER TEN",
   "bNEGATIVE CIRCLED DIGIT EIGHTeFIVEeFOUReNINEeONEeSEVENeSIXeTHREEeTWOdNUMBER TEN",
   "dSANS-SERIF DIGIT EIGHTfFIVEfFOURfNINEfONEfSEVENfSIXfTHREEfTWOfZEROeNUMBER TEN",
   "aDIRECT CURRENT SYMBOL FORM TWObHITaDISABLED CARaDISAPPOINTED BUT RELIEVED FACEbFACE",
   "aDISCONTINUOUS UNDERLINE SYMBOLaDISGUISED FACEaDITTO MARKaDIVES AKURU DIGIT EIGHTdFIVEdFOUR",
   "dNINEdONEdSEVENdSIXdTHREEdTWOdZEROcDOUBLE DANDAcEND OF TEXT MARKcGAP FILLERcINITIAL RA",
   "cLETTER AdAAdBAdBHAdCAdCHAdDAdDDAdDDHAdDHAdEdGAdGHAdHAdIdIIdJAdKAdKHAdLAdLLAdMAdNAdNGAdNNAdNYA",
   "dOdPAdPHAdRAdSAdSHAdSSAdTAdTHAdTTAdUdUUdVAdYAdYYAdZAcMEDIAL RAdYAcPREFIXED NASAL SIGN",
   "cSIGN ANUSVARAdCANDRABINDUdHALANTAdNUKTAcVIRAMAcVOWEL SIGN AAeAIeEeIeIIeOeUeUUaDIVIDES",
   "aDIVING MASKaDIVISION SIGNbSLASHbTIMESaDIVORCE SYMBOLaDIYA LAMPaDIZZY FACEbSYMBOLaDLE",
   "aDNA DOUBLE HELIXaDO NOT LITTER SYMBOLaDOCUMENTbWITH PICTUREcTEXTdAND PICTUREaDODO",
   "aDOES NOT CONTAIN AS MEMBEReNORMAL SUBGROUPgOR EQUALcDIVIDEdWITH REVERSED NEGATION SLASHcFORCE",
   "cPRECEDEdOR EQUALcPROVEcSUCCEEDdOR EQUALaDOGbFACEaDOGRA ABBREVIATION SIGNbLETTER AcAAcAIcAUcBA",
   "cBHAcCAcCHAcDAcDDAcDDHAcDHAcEcGAcGHAcHAcIcIIcJAcJHAcKAcKHAcLAcMAcNAcNGAcNNAcNYAcOcPAcPHAcRA",
   "cRRAcSAcSHAcSSAcTAcTHAcTTAcTTHAcUcUUcVAcYAbSIGN ANUSVARAcNUKTAcVIRAMAcVISARGAbVOWEL SIGN AAdAI",
   "dAUdEdIdIIdOdUdUUdVOCALIC ReRRaDOLLAR SIGNaDOLPHINaDOMINO TILE HORIZONTAL BACK",
   "cHORIZONTAL-00-00cHORIZONTAL-00-01cHORIZONTAL-00-02cHORIZONTAL-00-03cHORIZONTAL-00-04",
   "cHORIZONTAL-00-05cHORIZONTAL-00-06cHORIZONTAL-01-00cHORIZONTAL-01-01cHORIZONTAL-01-02",
   "cHORIZONTAL-01-03cHORIZONTAL-01-04cHORIZONTAL-01-05cHORIZONTAL-01-06cHORIZONTAL-02-00",
   "cHORIZONTAL-02-01cHORIZONTAL-02-02cHORIZONTAL-02-03cHORIZONTAL-02-04cHORIZONTAL-02-05",
   "cHORIZONTAL-02-06cHORIZONTAL-03-00cHORIZONTAL-03-01cHORIZONTAL-03-02cHORIZONTAL-03-03",
   "cHORIZONTAL-03-04cHORIZONTAL-03-05cHORIZONTAL-03-06cHORIZONTAL-04-00cHORIZONTAL-04-01",
   "cHORIZONTAL-04-02cHORIZONTAL-04-03cHORIZONTAL-04-04cHORIZONTAL-04-05cHORIZONTAL-04-06",
   "cHORIZONTAL-05-00cHORIZONTAL-05-01cHORIZONTAL-05-02cHORIZONTAL-05-03cHORIZONTAL-05-04",
   "cHORIZONTAL-05-05cHORIZONTAL-05-06cHORIZONTAL-06-00cHORIZONTAL-06-01cHORIZONTAL-06-02",
   "cHORIZONTAL-06-03cHORIZONTAL-06-04cHORIZONTAL-06-05cHORIZONTAL-06-06cVERTICAL BACK",
   "cVERTICAL-00-00cVERTICAL-00-01cVERTICAL-00-02cVERTICAL-00-03cVERTICAL-00-04cVERTICAL-00-05",
   "cVERTICAL-00-06cVERTICAL-01-00cVERTICAL-01-01cVERTICAL-01-02cVERTICAL-01-03cVERTICAL-01-04",
   "cVERTICAL-01-05cVERTICAL-01-06cVERTICAL-02-00cVERTICAL-02-01cVERTICAL-02-02cVERTICAL-02-03",
   "cVERTICAL-02-04cVERTICAL-02-05cVERTICAL-02-06cVERTICAL-03-00cVERTICAL-03-01cVERTICAL-03-02",
   "cVERTICAL-03-03cVERTICAL-03-04cVERTICAL-03-05cVERTICAL-03-06cVERTICAL-04-00cVERTICAL-04-01",
   "cVERTICAL-04-02cVERTICAL-04-03cVERTICAL-04-04cVERTICAL-04-05cVERTICAL-04-06cVERTICAL-05-00",
   "cVERTICAL-05-01cVERTICAL-05-02cVERTICAL-05-03cVERTICAL-05-04cVERTICAL-05-05cVERTICAL-05-06",
   "cVERTICAL-06-00cVERTICAL-06-01cVERTICAL-06-02cVERTICAL-06-03cVERTICAL-06-04cVERTICAL-06-05",
   "cVERTICAL-06-06aDONG SIGNaDOORaDOT ABOVEbMINUSbOPERATORbPLUSaDOTTED CIRCLEbCROSSbFENCE",
   "bLINE FACEbOBELOSbRIGHT-POINTING ANGLEbSOLIDUSbSQUAREbTRANSPOSITION MARKERaDOUBLE ACUTE ACCENT",
   "bCIRCLED DIGIT EIGHTdFIVEdFOURdNINEdONEdSEVENdSIXdTHREEdTWOcNUMBER TENbCOLON EQUALbCURLY LOOP",
   "bDAGGERbDOWN TACKbEXCLAMATION MARKbHIGH-REVERSED-9 QUOTATION MARKbHYPHENbINTEGRALbINTERSECTION",
   "bLEFT ARC GREATER-THAN BRACKETbLOGICAL ANDcORbLOW LINEbLOW-9 QUOTATION MARK",
   "bLOW-REVERSED-9 QUOTATION MARKbNESTED GREATER-THANcLESS-THANdWITH UNDERBARbOBLIQUE HYPHENbPLUS",
   "bPRECEDESbPRIMEcQUOTATION MARKbQUESTION MARKbRIGHT ARC LESS-THAN BRACKETbSOLIDUS OPERATOR",
   "bSQUARE INTERSECTIONcUNIONbSTACKED COMMAbSTROKE NOT SIGNbSUBSETbSUCCEEDSbSUPERSET",
   "bSUSPENSION MARKbUNIONbUP TACKbVERTICAL BARdDOUBLE LEFT TURNSTILEeRIGHT TURNSTILE",
   "dLEFT TURNSTILEcLINEbWAVY OVERLINEaDOUBLE-ENDED MULTIMAPaDOUBLE-LINE EQUAL TO OR GREATER-THAN",
   "eLESS-THANbSLANTED EQUAL TO OR GREATER-THANfLESS-THANcGREATER-THAN OR EQUAL TO",
   "cLESS-THAN OR EQUAL TOaDOUBLE-STRUCK CAPITAL CcGAMMAcHcNcPcPIcQcRcZbITALIC CAPITAL DcSMALL DdE",
   "dIdJbN-ARY SUMMATIONbSMALL GAMMAcPIaDOUBLED FEMALE SIGNbMALE SIGNbSYMBOLaDOUGHNUT",
   "aDOVE OF PEACEaDOWN ARROWHEADbFISH TAILbRIGHT DIAGONAL ELLIPSISbTACKcWITH CIRCLE BELOW",
   "aDOWN-POINTING RED TRIANGLEbSMALL RED TRIANGLEbTRIANGLE WITH LEFT HALF BLACKdRIGHT HALF BLACK",
   "aDOWNWARD FACING HOOKdWITH DOTcNOTCHED HOOKeWITH DOTaDOWNWARDS ANCORAbARROW",
   "cAND RIGHT ONE EIGHTH BLOCKcFROM BARcLEFTWARDS OF UPWARDS ARROWcTO BARcWITH CORNER LEFTWARDS",
   "dDOUBLE STROKEdEQUILATERAL ARROWHEADdHORIZONTAL STROKEdLARGE TRIANGLE ARROWHEAD",
   "dMEDIUM TRIANGLE ARROWHEADdNOTCHED TAILdSMALL EQUILATERAL ARROWHEADeTRIANGLE ARROWHEAD",
   "dTIP LEFTWARDSeRIGHTWARDSbBLACK ARROWcCIRCLED WHITE ARROWbCOMPRESSED ARROWbDASHED ARROW",
   "bDOUBLE ARROWbFINGER-POST ARROW",
   "bHARPOON WITH BARB LEFT BESIDE DOWNWARDS HARPOON WITH BARB RIGHT",
   "gUPWARDS HARPOON WITH BARB RIGHTfFROM BARfTO BAReLEFTWARDSeRIGHT FROM BARfTO BAReRIGHTWARDS",
   "bHEAVY ARROWcCOMPRESSED ARROWbPAIRED ARROWSbQUADRUPLE ARROWbROCKETbSANS-SERIF ARROW",
   "bSQUARED ARROWbTRIANGLE ARROWHEADbTRIANGLE-HEADED ARROW",
   "dLEFTWARDS OF UPWARDS TRIANGLE-HEADED ARROWdTO BARdWITH BOLD SHAFTeDOUBLE HORIZONTAL STROKE",
   "eHEAVY SHAFTeLONG TIP LEFTWARDSgRIGHTWARDSeMEDIUM SHAFTeNARROW SHAFTeVERY HEAVY SHAFT",
   "cDASHED ARROWcPAIRED ARROWScZIGZAG ARROWbTRIPLE ARROWbTWO HEADED ARROW",
   "bTWO-HEADED ARROW WITH TRIANGLE ARROWHEADSbWHITE ARROWdWITHIN TRIANGLE ARROWHEADbZIGZAG ARROW",
   "aDRACHMA SIGNaDRAFTING POINT RIGHTWARDS ARROWaDRAGONbFACEaDRESSaDRIVE SLOW SIGN",
   "aDROMEDARY CAMELaDROOLING FACEaDROP OF BLOODaDROPLETaDRUM WITH DRUMSTICKSaDUCKaDUMPLING",
   "aDUPLOYAN AFFIX ATTACHED E HOOKdI HOOKdLEFT-TO-RIGHT SECANTdSECANTdTAILdTANGENTeHOOK",
   "cHIGH ACUTEdCIRCLEdDOTdGRAVEdLINEdLONG GRAVEdTIGHT ACUTEdVERTICALeSECANTdWAVE",
   "cLEFT HORIZONTAL SECANTcLOW ACUTEdARROWdCIRCLEdDOTdGRAVEdLINEdLONG GRAVEdTIGHT ACUTEdVERTICAL",
   "eSECANTdWAVEcMID HORIZONTAL SECANTdVERTICAL SECANTcRIGHT HORIZONTAL SECANTbDOUBLE MARK",
   "bLETTER AcAOUcBcDdScDHcEcEEcEUcFdNcGdR ScHcHLcIcIEcJdMeSdNeSdSeWITH DOTdWITH DOT",
   "eDOTS INSIDE AND ABOVEcKdMdR ScKKcLcLHcLONG IdUcMdNeSdSdWITH DOTcNdMeSdSdWITH DOTcNASAL AdIdO",
   "dUcOcOAcOOHcOUcOWcPdNcPERNIN AMdANcRdScRHcROMANIAN IdUcSdJeSdKeRdMdNdPeRdSdTeRdWITH DOTfBELOW",
   "cSHORT IcSLOAN ANdDHdEEdEHdENdJdONdOWdUcTdR SdScTHcUdNcUHcUIcVcVOCALIC McWdRcWAcWEIcWHcWIcWO",
   "cWOWcXcXWcYEbPUNCTUATION CHINOOK FULL STOPbSIGN O WITH CROSSbTHICK LETTER SELECTORaDVD",
   "aE-MAIL SYMBOLaEAGLEaEARbOF MAIZEcRICEbWITH HEARING AIDaEARTHbGLOBE AMERICAScASIA-AUSTRALIA",
   "cEUROPE-AFRICAbGROUNDaEAST SYRIAC CROSSaEDITORIAL CORONISaEGGaEGYPTIAN HIEROGLYPH A001cA002",
   "cA003cA004cA005cA005AcA006cA006AcA006BcA007cA008cA009cA010cA011cA012cA013cA014cA014AcA015cA016",
   "cA017cA017AcA018cA019cA020cA021cA022cA023cA024cA025cA026cA027cA028cA029cA030cA031cA032cA032A",
   "cA033cA034cA035cA036cA037cA038cA039cA040cA040AcA041cA042cA042AcA043cA043AcA044cA045cA045AcA046",
   "cA047cA048cA049cA050cA051cA052cA053cA054cA055cA056cA057cA058cA059cA060cA061cA062cA063cA064",
   "cA065cA066cA067cA068cA069cA070cAA001cAA002cAA003cAA004cAA005cAA006cAA007cAA007AcAA007BcAA008",
   "cAA009cAA010cAA011cAA012cAA013cAA014cAA015cAA016cAA017cAA018cAA019cAA020cAA021cAA022cAA023",
   "cAA024cAA025cAA026cAA027cAA028cAA029cAA030cAA031cAA032cB001cB002cB003cB004cB005cB005AcB006",
   "cB007cB008cB009cBEGIN SEGMENTcC001cC002cC002AcC002BcC002CcC003cC004cC005cC006cC007cC008cC009",
   "cC010cC010AcC011cC012cC013cC014cC015cC016cC017cC018cC019cC020cC021cC022cC023cC024cD001cD002",
   "cD003cD004cD005cD006cD007cD008cD008AcD009cD010cD011cD012cD013cD014cD015cD016cD017cD018cD019",
   "cD020cD021cD022cD023cD024cD025cD026cD027cD027AcD028cD029cD030cD031cD031AcD032cD033cD034cD034A",
   "cD035cD036cD037cD038cD039cD040cD041cD042cD043cD044cD045cD046cD046AcD047cD048cD048AcD049cD050",
   "cD050AcD050BcD050CcD050DcD050EcD050FcD050GcD050HcD050IcD051cD052cD052AcD053cD054cD054AcD055",
   "cD056cD057cD058cD059cD060cD061cD062cD063cD064cD065cD066cD067cD067AcD067BcD067CcD067DcD067E",
   "cD067FcD067GcD067HcE001cE002cE003cE004cE005cE006cE007cE008cE008AcE009cE009AcE010cE011cE012",
   "cE013cE014cE015cE016cE016AcE017cE017AcE018cE019cE020cE020AcE021cE022cE023cE024cE025cE026cE027",
   "cE028cE028AcE029cE030cE031cE032cE033cE034cE034AcE036cE037cE038cEND SEGMENTcF001cF001AcF002",
   "cF003cF004cF005cF006cF007cF008cF009cF010cF011cF012cF013cF013AcF014cF015cF016cF017cF018cF019",
   "cF020cF021cF021AcF022cF023cF024cF025cF026cF027cF028cF029cF030cF031cF031AcF032cF033cF034cF035",
   "cF036cF037cF037AcF038cF038AcF039cF040cF041cF042cF043cF044cF045cF045AcF046cF046AcF047cF047A",
   "cF048cF049cF050cF051cF051AcF051BcF051CcF052cF053cG001cG002cG003cG004cG005cG006cG006AcG007",
   "cG007AcG007BcG008cG009cG010cG011cG011AcG012cG013cG014cG015cG016cG017cG018cG019cG020cG020AcG021",
   "cG022cG023cG024cG025cG026cG026AcG027cG028cG029cG030cG031cG032cG033cG034cG035cG036cG036AcG037",
   "cG037AcG038cG039cG040cG041cG042cG043cG043AcG044cG045cG045AcG046cG047cG048cG049cG050cG051cG052",
   "cG053cG054cH001cH002cH003cH004cH005cH006cH006AcH007cH008cHORIZONTAL JOINERcI001cI002cI003cI004",
   "cI005cI005AcI006cI007cI008cI009cI009AcI010cI010AcI011cI011AcI012cI013cI014cI015",
   "cINSERT AT BOTTOM ENDfSTARTeTOP ENDfSTARTcK001cK002cK003cK004cK005cK006cK007cK008cL001cL002",
   "cL002AcL003cL004cL005cL006cL006AcL007cL008cM001cM001AcM001BcM002cM003cM003AcM004cM005cM006",
   "cM007cM008cM009cM010cM010AcM011cM012cM012AcM012BcM012CcM012DcM012EcM012FcM012GcM012HcM013cM014",
   "cM015cM015AcM016cM016AcM017cM017AcM018cM019cM020cM021cM022cM022AcM023cM024cM024AcM025cM026",
   "cM027cM028cM028AcM029cM030cM031cM031AcM032cM033cM033AcM033BcM034cM035cM036cM037cM038cM039cM040",
   "cM040AcM041cM042cM043cM044cN001cN002cN003cN004cN005cN006cN007cN008cN009cN010cN011cN012cN013",
   "cN014cN015cN016cN017cN018cN018AcN018BcN019cN020cN021cN022cN023cN024cN025cN025AcN026cN027cN028",
   "cN029cN030cN031cN032cN033cN033AcN034cN034AcN035cN035AcN036cN037cN037AcN038cN039cN040cN041cN042",
   "cNL001cNL002cNL003cNL004cNL005cNL005AcNL006cNL007cNL008cNL009cNL010cNL011cNL012cNL013cNL014",
   "cNL015cNL016cNL017cNL017AcNL018cNL019cNL020cNU001cNU002cNU003cNU004cNU005cNU006cNU007cNU008",
   "cNU009cNU010cNU010AcNU011cNU011AcNU012cNU013cNU014cNU015cNU016cNU017cNU018cNU018AcNU019cNU020",
   "cNU021cNU022cNU022AcO001cO001AcO002cO003cO004cO005cO005AcO006cO006AcO006BcO006CcO006DcO006E",
   "cO006FcO007cO008cO009cO010cO010AcO010BcO010CcO011cO012cO013cO014cO015cO016cO017cO018cO019",
   "cO019AcO020cO020AcO021cO022cO023cO024cO024AcO025cO025AcO026cO027cO028cO029cO029AcO030cO030A",
   "cO031cO032cO033cO033AcO034cO035cO036cO036AcO036BcO036CcO036DcO037cO038cO039cO040cO041cO042",
   "cO043cO044cO045cO046cO047cO048cO049cO050cO050AcO050BcO051cOVERLAY MIDDLEcP001cP001AcP002cP003",
   "cP003AcP004cP005cP006cP007cP008cP009cP010cP011cQ001cQ002cQ003cQ004cQ005cQ006cQ007cR001cR002",
   "cR002AcR003cR003AcR003BcR004cR005cR006cR007cR008cR009cR010cR010AcR011cR012cR013cR014cR015cR016",
   "cR016AcR017cR018cR019cR020cR021cR022cR023cR024cR025cR026cR027cR028cR029cS001cS002cS002AcS003",
   "cS004cS005cS006cS006AcS007cS008cS009cS010cS011cS012cS013cS014cS014AcS014BcS015cS016cS017cS017A",
   "cS018cS019cS020cS021cS022cS023cS024cS025cS026cS026AcS026BcS027cS028cS029cS030cS031cS032cS033",
   "cS034cS035cS035AcS036cS037cS038cS039cS040cS041cS042cS043cS044cS045cS046cT001cT002cT003cT003A",
   "cT004cT005cT006cT007cT007AcT008cT008AcT009cT009AcT010cT011cT011AcT012cT013cT014cT015cT016",
   "cT016AcT017cT018cT019cT020cT021cT022cT023cT024cT025cT026cT027cT028cT029cT030cT031cT032cT032A",
   "cT033cT033AcT034cT035cT036cU001cU002cU003cU004cU005cU006cU006AcU006BcU007cU008cU009cU010cU011",
   "cU012cU013cU014cU015cU016cU017cU018cU019cU020cU021cU022cU023cU023AcU024cU025cU026cU027cU028",
   "cU029cU029AcU030cU031cU032cU032AcU033cU034cU035cU036cU037cU038cU039cU040cU041cU042cV001cV001A",
   "cV001BcV001CcV001DcV001EcV001FcV001GcV001HcV001IcV002cV002AcV003cV004cV005cV006cV007cV007A",
   "cV007BcV008cV009cV010cV011cV011AcV011BcV011CcV012cV012AcV012BcV013cV014cV015cV016cV017cV018",
   "cV019cV020cV020AcV020BcV020CcV020DcV020EcV020FcV020GcV020HcV020IcV020JcV020KcV020LcV021cV022",
   "cV023cV023AcV024cV025cV026cV027cV028cV028AcV029cV029AcV030cV030AcV031cV031AcV032cV033cV033A",
   "cV034cV035cV036cV037cV037AcV038cV039cV040cV040AcVERTICAL JOINERcW001cW002cW003cW003AcW004cW005",
   "cW006cW007cW008cW009cW009AcW010cW010AcW011cW012cW013cW014cW014AcW015cW016cW017cW017AcW018",
   "cW018AcW019cW020cW021cW022cW023cW024cW024AcW025cX001cX002cX003cX004cX004AcX004BcX005cX006",
   "cX006AcX007cX008cX008AcY001cY001AcY002cY003cY004cY005cY006cY007cY008cZ001cZ002cZ002AcZ002B",
   "cZ002CcZ002DcZ003cZ003AcZ003BcZ004cZ004AcZ005cZ005AcZ006cZ007cZ008cZ009cZ010cZ011cZ012cZ013",
   "cZ014cZ015cZ015AcZ015BcZ015CcZ015DcZ015EcZ015FcZ015GcZ015HcZ015IcZ016cZ016AcZ016BcZ016CcZ016D",
   "cZ016EcZ016FcZ016GcZ016HaEIGHT PETALLED OUTLINED BLACK FLORETTEbPOINTED BLACK STAR",
   "cPINWHEEL STARcRECTILINEAR BLACK STARbSPOKED ASTERISKbTEARDROP-SPOKED PROPELLER ASTERISK",
   "aEIGHTH NOTEaEJECT SYMBOLaELBASAN LETTER AcBEcCEcCHEcDEcDHEcEcEIcFEcGEcGHAMMAcGHEcGJEcHEcIcJE",
   "cKEcKHEcLEcLLEcMEcNAcNDEcNEcNJEcOcPEcQEcREcRREcSEcSHEcTEcTHEcUcVEcXEcYcZEcZHEaELECTRIC ARROW",
   "bLIGHT BULBbPLUGbTORCHaELECTRICAL INTERSECTIONaELEMENT OFcOPENING DOWNWARDSdUPWARDS",
   "cWITH DOT ABOVEdLONG HORIZONTAL STROKEdOVERBARdTWO HORIZONTAL STROKESdUNDERBAR",
   "dVERTICAL BAR AT END OF HORIZONTAL STROKEaELEPHANTaELEVATORaELFaELYMAIC LETTER ALEPHcAYINcBETH",
   "cDALETHcGIMELcHEcHETHcKAPHcLAMEDHcMEMcNUNcPEcQOPHcRESHcSADHEcSAMEKHcSHINcTAWcTETHcWAWcYODH",
   "cZAYINbLIGATURE ZAYIN-YODHaEM DASHbQUADbSPACEaEMOJI COMPONENT BALDcCURLY HAIRcRED HAIR",
   "cWHITE HAIRbMODIFIER FITZPATRICK TYPE-1-2dTYPE-3dTYPE-4dTYPE-5dTYPE-6aEMPHASIS SYMBOL",
   "aEMPTY DOCUMENTbNESTbNOTEcPADcPAGEbPAGEbPAGESbSETcWITH LEFT ARROW ABOVEdOVERBAR",
   "dRIGHT ARROW ABOVEdSMALL CIRCLE ABOVEaEN DASHbQUADbSPACEaEND OF GUARDED AREAcLINEcMEDIUMcPROOF",
   "cPROTECTED AREAcSELECTED AREAcTEXTcTRANSMISSIONdBLOCKbWITH LEFTWARDS ARROW ABOVEaENQaENQUIRY",
   "aENTER SYMBOLaENVELOPEbWITH DOWNWARDS ARROW ABOVEcLIGHTNINGaEOLaEOMaEOTaEPA",
   "aEQUAL AND PARALLEL TObTO BY DEFINITIONcOR GREATER-THANdLESS-THANdPRECEDESdSUCCEEDS",
   "aEQUALS COLONbSIGNcABOVE LEFTWARDS ARROWdPLUS SIGNdRIGHTWARDS ARROWdTILDE OPERATOR",
   "cAND SLANTED PARALLELfWITH TILDE ABOVEcWITH BUMPY ABOVEdDOT BELOWdINFINITY BELOW",
   "dTWO DOTS ABOVE AND TWO DOTS BELOWbWITH ASTERISKaEQUIANGULAR TOaEQUIVALENT TO",
   "bWITH FOUR DOTS ABOVEaERASE TO THE LEFTdRIGHTaERIS FORM ONEcTWOaERROR-BARRED BLACK CIRCLE",
   "cDIAMONDcSQUAREbWHITE CIRCLEcDIAMONDcSQUAREaESAaESCaESCAPEaESTIMATED SYMBOLaESTIMATESaETB",
   "aETHIOPIC COLONbCOMBINING GEMINATION AND VOWEL LENGTH MARKdMARKcVOWEL LENGTH MARKbCOMMA",
   "bDIGIT EIGHTcFIVEcFOURcNINEcONEcSEVENcSIXcTHREEcTWObFULL STOPbNUMBER EIGHTYcFIFTYcFORTY",
   "cHUNDREDcNINETYcSEVENTYcSIXTYcTENdTHOUSANDcTHIRTYcTWENTYbPARAGRAPH SEPARATORbPREFACE COLON",
   "bQUESTION MARKbSECTION MARKbSEMICOLONbSYLLABLE BAcBAAcBBAcBBAAcBBEcBBEEcBBIcBBOcBBUcBEcBEEcBI",
   "cBOcBOAcBUcBWAcBWEcBWEEcBWIcCAcCAAcCCAcCCAAcCCEcCCEEcCCHAcCCHAAcCCHEcCCHEEcCCHHAcCCHHAAcCCHHE",
   "cCCHHEEcCCHHIcCCHHOcCCHHUcCCHIcCCHOcCCHUcCCIcCCOcCCUcCEcCEEcCHAcCHAAcCHEcCHEEcCHIcCHOcCHOAcCHU",
   "cCHWAcCIcCOcCOAcCUcCWAcDAcDAAcDDAcDDAAcDDEcDDEEcDDHAAcDDHEcDDHEEcDDHIcDDHOcDDHUcDDIcDDOcDDOA",
   "cDDUcDDWAcDEcDEEcDIcDOcDOAcDUcDWAcDZAAcDZEcDZEEcDZIcDZOcDZUcFAcFAAcFEcFEEcFIcFOcFUcFWAcFWE",
   "cFWEEcFWIcFYAcGAcGAAcGEcGEEcGGAcGGAAcGGEcGGEEcGGIcGGOcGGUcGGWAcGGWAAcGGWEcGGWEEcGGWIcGI",
   "cGLOTTAL AdAAdEdEEdIdOdOAdUdWAcGOcGOAcGUcGURAGE BWEEdBWIdFWEEdFWIdGWEdGWEEdGWIdHHWAdKWEdKWEE",
   "dKWIdMWEEdMWIdPWEEdPWIdQWEdQWEEdQWIcGWAcGWAAcGWEcGWEEcGWIcGYAcGYAAcGYEcGYEEcGYIcGYOcGYUcHAcHAA",
   "cHEcHEEcHHAcHHAAcHHEcHHEEcHHIcHHOcHHUcHHWAcHHWEcHHWEEcHHWIcHHYAcHHYAAcHHYEcHHYEEcHHYIcHHYO",
   "cHHYUcHIcHOcHOAcHUcJAcJAAcJEcJEEcJIcJOcJOAcJUcJWAcKAcKAAcKEcKEEcKIcKOcKOAcKUcKWAcKWAAcKWEcKWEE",
   "cKWIcKXAcKXAAcKXEcKXEEcKXIcKXOcKXUcKXWAcKXWAAcKXWEcKXWEEcKXWIcKYAcKYAAcKYEcKYEEcKYIcKYOcKYUcLA",
   "cLAAcLEcLEEcLIcLOcLOAcLUcLWAcMAcMAAcMEcMEEcMIcMOcMOAcMUcMWAcMWEcMWEEcMWIcMYAcNAcNAAcNEcNEEcNI",
   "cNOcNOAcNUcNWAcNYAcNYAAcNYEcNYEEcNYIcNYOcNYOAcNYUcNYWAcPAcPAAcPEcPEEcPHAcPHAAcPHARYNGEAL AdAA",
   "dEdEEdIdOdUcPHEcPHEEcPHIcPHOcPHOAcPHUcPHWAcPIcPOcPOAcPUcPWAcPWEcPWEEcPWIcQAcQAAcQEcQEEcQHA",
   "cQHAAcQHEcQHEEcQHIcQHOcQHUcQHWAcQHWAAcQHWEcQHWEEcQHWIcQIcQOcQOAcQUcQWAcQWAAcQWEcQWEEcQWIcQYA",
   "cQYAAcQYEcQYEEcQYIcQYOcQYUcRAcRAAcREcREEcRIcROcROAcRUcRWAcRYAcSAcSAAcSEcSEBATBEIT BWAdFWAdMWA",
   "dPWAcSEEcSHAcSHAAcSHEcSHEEcSHIcSHOcSHOAcSHUcSHWAcSIcSOcSOAcSSAcSSAAcSSEcSSEEcSSIcSSOcSSUcSU",
   "cSWAcSZAcSZAAcSZEcSZEEcSZIcSZOcSZUcSZWAcTAcTAAcTEcTEEcTHAcTHAAcTHEcTHEEcTHIcTHOcTHOAcTHUcTHWA",
   "cTIcTOcTOAcTSAcTSAAcTSEcTSEEcTSIcTSOcTSUcTSWAcTTHAAcTTHEcTTHEEcTTHIcTTHOcTTHUcTUcTWAcTZAcTZAA",
   "cTZEcTZEEcTZIcTZOcTZOAcTZUcVAcVAAcVEcVEEcVIcVOcVUcVWAcWAcWAAcWEcWEEcWIcWOcWOAcWUcXAcXAAcXEcXEE",
   "cXIcXOcXOAcXUcXWAcXWAAcXWEcXWEEcXWIcXYAcXYAAcXYEcXYEEcXYIcXYOcXYUcYAcYAAcYEcYEEcYIcYOcYOAcYU",
   "cZAcZAAcZEcZEEcZHAcZHAAcZHEcZHEEcZHIcZHOcZHUcZHWAcZIcZOcZOAcZUcZWAcZZAcZZAAcZZEcZZEEcZZIcZZO",
   "cZZUbTONAL MARK CHIRETdDERETdDERET-HIDETdDIFATdHIDETdKENATdKURTdRIKRIKdSHORT RIKRIKdYIZET",
   "bWORDSPACEaETXaEULER CONSTANTaEURO SIGNaEURO-CURRENCY SIGNaEUROPEAN CASTLEbPOST OFFICE",
   "aEVERGREEN TREEaEXCESSaEXCLAMATION MARKbQUESTION MARKaEXPRESSIONLESS FACE",
   "aEXTENDED ARABIC-INDIC DIGIT EIGHTdFIVEdFOURdNINEdONEdSEVENdSIXdTHREEdTWOdZERO",
   "aEXTRATERRESTRIAL ALIENaEXTREMELY HEAVY FIVE SPOKED ASTERISKcGREEK CROSScSALTIRE",
   "cSIX SPOKED ASTERISKcWHITE CIRCLEdSQUAREaEYEaEYEGLASSESaEYESaFACE HOLDING BACK TEARSbMASSAGE",
   "bPALMbSAVOURING DELICIOUS FOODbSCREAMING IN FEARbTHROWING A KISSbWITH COLD SWEATcCOWBOY HAT",
   "cDIAGONAL MOUTHcFINGER COVERING CLOSED LIPScHEAD-BANDAGEcLOOK OF TRIUMPHcMEDICAL MASKcMONOCLE",
   "cNO GOOD GESTUREcOK GESTUREcONE EYEBROW RAISEDcOPEN EYES AND HAND OVER MOUTHdMOUTH",
   "eAND COLD SWEATeVOMITINGcPARTY HORN AND PARTY HATcPEEKING EYEcPLEADING EYEScROLLING EYES",
   "cSTUCK-OUT TONGUEeAND TIGHTLY-CLOSED EYESfWINKING EYEcTEARS OF JOYcTHERMOMETER",
   "cUNEVEN EYES AND WAVY MOUTHbWITHOUT MOUTHaFACSIMILE SIGNaFACTORYaFAIRYaFALAFELaFALLEN LEAF",
   "aFALLING DIAGONAL CROSSING NORTH EAST ARROWdRISING DIAGONALcIN WHITE CIRCLE IN BLACK SQUARE",
   "aFAMILYaFARSI SYMBOLaFATHER CHRISTMASaFAX ICONbMACHINEaFEARFUL FACEaFEATHERaFEMALE SIGN",
   "aFEMININE ORDINAL INDICATORaFENCERaFERRIS WHEELaFERRYaFFaFIELD HOCKEY STICK AND BALL",
   "aFIGURE DASHbSPACEaFILE CABINETbFOLDERbSEPARATORaFILM FRAMESbPROJECTORaFINITE PART INTEGRAL",
   "aFIREbENGINEbEXTINGUISHERaFIRECRACKERaFIREWORK SPARKLERaFIREWORKSaFIRST PLACE MEDAL",
   "bQUARTER MOONdSYMBOLdWITH FACEbSTRONG ISOLATEaFISHbCAKE WITH SWIRL DESIGNaFISHEYE",
   "aFISHING POLE AND FISHaFISTED HAND SIGNaFIVE DOT MARKcPUNCTUATIONaFLAG IN HOLEaFLAMINGO",
   "aFLAT SHOEaFLATBREADaFLATNESSaFLEUR-DE-LISaFLEXED BICEPSaFLOPPY DISKaFLORAL HEARTaFLOWER",
   "bPLAYING CARDSbPUNCTUATION MARKaFLUSHED FACEaFLYaFLYING DISCbENVELOPEbSAUCERaFOGaFOGGYaFOLDER",
   "aFONDUEaFOOTaFOOTPRINTSaFOR ALLaFORCESaFORK AND KNIFEdWITH PLATEaFORKED PARAGRAPHOSaFORKING",
   "aFORM FEEDaFORTUNE COOKIEaFOUNTAINaFOUR BALLOON-SPOKED ASTERISKbCLUB-SPOKED ASTERISK",
   "bCORNER ARROWS CIRCLING ANTICLOCKWISEbDOT MARKcPUNCTUATIONbLEAF CLOVERbPOINTED BLACK STAR",
   "bTEARDROP-SPOKED ASTERISKaFOUR-PER-EM SPACEaFOURTH ROOTaFOX FACEaFRACTION NUMERATOR ONEbSLASH",
   "aFRAME WITH AN XcPICTUREcTILESaFREEZING FACEaFRENCH FRANC SIGNbFRIESaFRIED SHRIMPaFROG FACE",
   "aFRONT-FACING BABY CHICKaFRONT-TILTED SHADOWED WHITE RIGHTWARDS ARROWaFROWN",
   "aFROWNING FACE WITH OPEN MOUTHaFSaFSIaFUEL PUMPaFULL BLOCKbMOON SYMBOLcWITH FACEbOUTER JOIN",
   "bSTOPaFULLWIDTH AMPERSANDbAPOSTROPHEbASTERISKbBROKEN BARbCENT SIGNbCIRCUMFLEX ACCENTbCOLON",
   "bCOMMAbCOMMERCIAL ATbDIGIT EIGHTcFIVEcFOURcNINEcONEcSEVENcSIXcTHREEcTWOcZERObDOLLAR SIGN",
   "bEQUALS SIGNbEXCLAMATION MARKbFULL STOPbGRAVE ACCENTbGREATER-THAN SIGNbHYPHEN-MINUS",
   "bLATIN CAPITAL LETTER AeBeCeDeEeFeGeHeIeJeKeLeMeNeOePeQeReSeTeUeVeWeXeYeZcSMALL LETTER AeBeCeD",
   "eEeFeGeHeIeJeKeLeMeNeOePeQeReSeTeUeVeWeXeYeZbLEFT CURLY BRACKETcPARENTHESIScSQUARE BRACKET",
   "cWHITE PARENTHESISbLESS-THAN SIGNbLOW LINEbMACRONbNOT SIGNbNUMBER SIGNbPERCENT SIGNbPLUS SIGN",
   "bPOUND SIGNbQUESTION MARKbQUOTATION MARKbREVERSE SOLIDUSbRIGHT CURLY BRACKETcPARENTHESIS",
   "cSQUARE BRACKETcWHITE PARENTHESISbSEMICOLONbSOLIDUSbTILDEbVERTICAL LINEbWON SIGNbYEN SIGN",
   "aFUNCTION APPLICATIONaFUNERAL URNaFUSEaFVS1aFVS2aFVS3aFVS4"]

end FragmentImports.CharacterName
