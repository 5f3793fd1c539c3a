namespace FragmentImports.CharacterName

def fromTToZ : List String :=
  ["aT-REXaT-SHIRTaTABaTABLE TENNIS PADDLE AND BALLaTACOaTAG AMPERSANDbAPOSTROPHEbASTERISK",
   "bCIRCUMFLEX ACCENTbCOLONbCOMMAbCOMMERCIAL ATbDIGIT EIGHTcFIVEcFOURcNINEcONEcSEVENcSIXcTHREE",
   "cTWOcZERObDOLLAR SIGNbEQUALS SIGNbEXCLAMATION MARKbFULL STOPbGRAVE ACCENTbGREATER-THAN SIGN",
   "bHYPHEN-MINUSbLATIN CAPITAL LETTER AeBeCeDeEeFeGeHeIeJeKeLeMeNeOePeQeReSeTeUeVeWeXeYeZ",
   "cSMALL LETTER AeBeCeDeEeFeGeHeIeJeKeLeMeNeOePeQeReSeTeUeVeWeXeYeZbLEFT CURLY BRACKET",
   "cPARENTHESIScSQUARE BRACKETbLESS-THAN SIGNbLOW LINEbNUMBER SIGNbPERCENT SIGNbPLUS SIGN",
   "bQUESTION MARKbQUOTATION MARKbREVERSE SOLIDUSbRIGHT CURLY BRACKETcPARENTHESIScSQUARE BRACKET",
   "bSEMICOLONbSOLIDUSbSPACEbTILDEbVERTICAL LINEaTAGALOG LETTER AcARCHAIC RAcBAcDAcGAcHAcIcKAcLA",
   "cMAcNAcNGAcPAcRAcSAcTAcUcWAcYAbSIGN PAMUDPODcVIRAMAbVOWEL SIGN IdUaTAGBANWA LETTER AcBAcDAcGA",
   "cIcKAcLAcMAcNAcNGAcPAcSAcTAcUcWAcYAbVOWEL SIGN IdUaTAI LE LETTER AdAIdAUEdEdEEdEHdFAdHAdIdKA",
   "dKHAdLAdMAdNAdNGAdOdOOdPAdPHAdQAdSAdTAdTHAdTONE-2dTONE-3dTONE-4dTONE-5dTONE-6dTSAdTSHAdUdUEdVA",
   "dXAdYAbTHAM COMBINING CRYPTOGRAMMIC DOTcCONSONANT SIGN BAeFINAL NGAeHIGH RATHA OR LOW PA",
   "eLA TANG LAIeLOW PAeMAeMEDIAL LAfRAeSAcHORA DIGIT EIGHTeFIVEeFOUReNINEeONEeSEVENeSIXeTHREEeTWO",
   "eZEROcLETTER AdBAdDAdEEdGREAT SAdHIGH CAeCHAeFAeHAeKAeKHAeKXAePAePHAeRATHAeSAeSHAeSSAeTAeTHA",
   "eYAdIdIIdLAdLAEdLLAdLOW CAeCHAeFAeHAeKAeKHAeKXAePAePHAeRATHAeSAeTAeTHAeYAdLUEdMAdNAdNGAdNYAdOO",
   "dRAdRANAdRATAdRUEdUdUUdWAcSIGN CAANGdDOKMAIdHANGdHOYdKAANdKAANKUUdKEOWdKHUEN TONE-3eTONE-4",
   "eTONE-5dKHUEN-LUE KARANdMAI KANGfLAIeSAMeYAMOKdRA HAAMdREVERSED ROTATED RANAdSAKOTdSATKAAN",
   "dSATKAANKUUdSAWANdTONE-1dTONE-2dWIANGdWIANGWAAKcTHAM DIGIT EIGHTeFIVEeFOUReNINEeONEeSEVENeSIX",
   "eTHREEeTWOeZEROcVOWEL SIGN AeAAeAEeAIeEeIeIIeMAI SATeOeOA ABOVEfBELOWeOOeOYeTALL AAeTHAM AIeU",
   "eUEeUUeUUEbVIET LETTER HIGH BOeCHOeCOeDOeFOeGOeHOeKHHOeKHOeKOeLOeMOeNGOeNOeNYOeOePHOePOeROeSO",
   "eTHOeTOeVOeYOdLOW BOeCHOeCOeDOeFOeGOeHOeKHHOeKHOeKOeLOeMOeNGOeNOeNYOeOePHOePOeROeSOeTHOeTOeVO",
   "eYOcMAI KANGdKHITcSYMBOL HO HOIdKOI KOIdKONdNUENGdSAMcTONE MAI EKeNUENGeSONGeTHOcVOWEL AAdAM",
   "dANdAUEdAYdEdIdIAdOdUdUAdUEdUEAaTAKEOUT BOXaTAKRI ABBREVIATION SIGNbDIGIT EIGHTcFIVEcFOURcNINE",
   "cONEcSEVENcSIXcTHREEcTWOcZERObLETTER AcAAcAIcARCHAIC KHAcAUcBAcBHAcCAcCHAcDAcDDAcDDHAcDHAcEcGA",
   "cGHAcHAcIcIIcJAcJHAcKAcKHAcLAcMAcNAcNGAcNNAcNYAcOcPAcPHAcRAcRRAcSAcSHAcTAcTHAcTTAcTTHAcUcUUcVA",
   "cYAbSIGN ANUSVARAcNUKTAcVIRAMAcVISARGAbVOWEL SIGN AAdAIdAUdEdIdIIdOdUdUUaTALLY MARK FIVEcONE",
   "aTAMALEaTAMIL AND ODD SIGNbAS ABOVE SIGNbAU LENGTH MARKbCREDIT SIGNbCURRENT SIGNbDAY SIGN",
   "bDEBIT SIGNbDIGIT EIGHTcFIVEcFOURcNINEcONEcSEVENcSIXcTHREEcTWOcZERObDRY CULTIVATION SIGN",
   "bFRACTION DOWNSCALING FACTOR KIIZHcONE EIGHTHdEIGHTIETHdFIFTHdFORTIETHdHALF-1dHALF-2",
   "dONE-HUNDRED-AND-SIXTIETHdQUARTERdSIXTEENTH-1dSIXTEENTH-2dSIXTY-FOURTHdTENTHdTHIRTY-SECOND",
   "dTHREE-HUNDRED-AND-TWENTIETHdTWENTIETHcTHREE EIGHTIETHSdQUARTERSdSIXTEENTHSdSIXTY-FOURTHS",
   "dTWENTIETHSbIN POSSESSION SIGNbLAND SIGNbLETTER AcAAcAIcAUcCAcEcEEcHAcIcIIcJAcKAcLAcLLAcLLLA",
   "cMAcNAcNGAcNNAcNNNAcNYAcOcOOcPAcRAcRRAcSAcSHAcSSAcTAcTTAcUcUUcVAcYAbMONTH SIGN",
   "bNUMBER ONE HUNDREDdTHOUSANDcSIGNcTENbOMbPUNCTUATION END OF TEXTbRUPEE SIGNbSALT PAN SIGN",
   "bSIGN AAZHAAKKUcANUSVARAcCEVITUcKAACUcKURUNIcKUZHIcMUKKURUNIcMUTHALIYAcMUUVUZHAKKUcNELcPAARAM",
   "cPANAMcPATHAKKUcPONcUZHAKKUcVAKAIYARAAcVARAAKANcVELIcVIRAMAcVISARGAbSPENT SIGN",
   "bSTARTING FROM SIGNbTOTAL SIGNbTRADITIONAL CREDIT SIGNcNUMBER SIGNbVOWEL SIGN AAdAIdAUdEdEEdI",
   "dIIdOdOOdUdUUbWET CULTIVATION SIGNbYEAR SIGNaTANABATA TREEaTANGERINEaTANGSA DIGIT EIGHTcFIVE",
   "cFOURcNINEcONEcSEVENcSIXcTHREEcTWOcZERObLETTER ACcAQcAWCcAWQcAWXcAWZcAXcAZcBAcCAcCHAcDAcDHAcEC",
   "cEQcEXcEZcFAcFINAL NGcGAcGHAcHAcHTAcHTTAcICcIQcIXcIZcKAcKHAcLAcLONG UEXcMAcMCcMQcMXcMZcNAcNGA",
   "cNHAcNYAcOCcOQcOXcOZcPAcPHAcRAcSAcSHAcSHORT AWXdUEZcTAcTHAcTSAcUCcUECcUEQcUEXcUEZcUICcUIQcUIUC",
   "cUIUQcUIUXcUIUZcUIXcUIZcUQcUXcUZcVCcVQcVXcVZcWAcXAcYAcZAaTANGUT COMPONENT-001bCOMPONENT-002",
   "bCOMPONENT-003bCOMPONENT-004bCOMPONENT-005bCOMPONENT-006bCOMPONENT-007bCOMPONENT-008",
   "bCOMPONENT-009bCOMPONENT-010bCOMPONENT-011bCOMPONENT-012bCOMPONENT-013bCOMPONENT-014",
   "bCOMPONENT-015bCOMPONENT-016bCOMPONENT-017bCOMPONENT-018bCOMPONENT-019bCOMPONENT-020",
   "bCOMPONENT-021bCOMPONENT-022bCOMPONENT-023bCOMPONENT-024bCOMPONENT-025bCOMPONENT-026",
   "bCOMPONENT-027bCOMPONENT-028bCOMPONENT-029bCOMPONENT-030bCOMPONENT-031bCOMPONENT-032",
   "bCOMPONENT-033bCOMPONENT-034bCOMPONENT-035bCOMPONENT-036bCOMPONENT-037bCOMPONENT-038",
   "bCOMPONENT-039bCOMPONENT-040bCOMPONENT-041bCOMPONENT-042bCOMPONENT-043bCOMPONENT-044",
   "bCOMPONENT-045bCOMPONENT-046bCOMPONENT-047bCOMPONENT-048bCOMPONENT-049bCOMPONENT-050",
   "bCOMPONENT-051bCOMPONENT-052bCOMPONENT-053bCOMPONENT-054bCOMPONENT-055bCOMPONENT-056",
   "bCOMPONENT-057bCOMPONENT-058bCOMPONENT-059bCOMPONENT-060bCOMPONENT-061bCOMPONENT-062",
   "bCOMPONENT-063bCOMPONENT-064bCOMPONENT-065bCOMPONENT-066bCOMPONENT-067bCOMPONENT-068",
   "bCOMPONENT-069bCOMPONENT-070bCOMPONENT-071bCOMPONENT-072bCOMPONENT-073bCOMPONENT-074",
   "bCOMPONENT-075bCOMPONENT-076bCOMPONENT-077bCOMPONENT-078bCOMPONENT-079bCOMPONENT-080",
   "bCOMPONENT-081bCOMPONENT-082bCOMPONENT-083bCOMPONENT-084bCOMPONENT-085bCOMPONENT-086",
   "bCOMPONENT-087bCOMPONENT-088bCOMPONENT-089bCOMPONENT-090bCOMPONENT-091bCOMPONENT-092",
   "bCOMPONENT-093bCOMPONENT-094bCOMPONENT-095bCOMPONENT-096bCOMPONENT-097bCOMPONENT-098",
   "bCOMPONENT-099bCOMPONENT-100bCOMPONENT-101bCOMPONENT-102bCOMPONENT-103bCOMPONENT-104",
   "bCOMPONENT-105bCOMPONENT-106bCOMPONENT-107bCOMPONENT-108bCOMPONENT-109bCOMPONENT-110",
   "bCOMPONENT-111bCOMPONENT-112bCOMPONENT-113bCOMPONENT-114bCOMPONENT-115bCOMPONENT-116",
   "bCOMPONENT-117bCOMPONENT-118bCOMPONENT-119bCOMPONENT-120bCOMPONENT-121bCOMPONENT-122",
   "bCOMPONENT-123bCOMPONENT-124bCOMPONENT-125bCOMPONENT-126bCOMPONENT-127bCOMPONENT-128",
   "bCOMPONENT-129bCOMPONENT-130bCOMPONENT-131bCOMPONENT-132bCOMPONENT-133bCOMPONENT-134",
   "bCOMPONENT-135bCOMPONENT-136bCOMPONENT-137bCOMPONENT-138bCOMPONENT-139bCOMPONENT-140",
   "bCOMPONENT-141bCOMPONENT-142bCOMPONENT-143bCOMPONENT-144bCOMPONENT-145bCOMPONENT-146",
   "bCOMPONENT-147bCOMPONENT-148bCOMPONENT-149bCOMPONENT-150bCOMPONENT-151bCOMPONENT-152",
   "bCOMPONENT-153bCOMPONENT-154bCOMPONENT-155bCOMPONENT-156bCOMPONENT-157bCOMPONENT-158",
   "bCOMPONENT-159bCOMPONENT-160bCOMPONENT-161bCOMPONENT-162bCOMPONENT-163bCOMPONENT-164",
   "bCOMPONENT-165bCOMPONENT-166bCOMPONENT-167bCOMPONENT-168bCOMPONENT-169bCOMPONENT-170",
   "bCOMPONENT-171bCOMPONENT-172bCOMPONENT-173bCOMPONENT-174bCOMPONENT-175bCOMPONENT-176",
   "bCOMPONENT-177bCOMPONENT-178bCOMPONENT-179bCOMPONENT-180bCOMPONENT-181bCOMPONENT-182",
   "bCOMPONENT-183bCOMPONENT-184bCOMPONENT-185bCOMPONENT-186bCOMPONENT-187bCOMPONENT-188",
   "bCOMPONENT-189bCOMPONENT-190bCOMPONENT-191bCOMPONENT-192bCOMPONENT-193bCOMPONENT-194",
   "bCOMPONENT-195bCOMPONENT-196bCOMPONENT-197bCOMPONENT-198bCOMPONENT-199bCOMPONENT-200",
   "bCOMPONENT-201bCOMPONENT-202bCOMPONENT-203bCOMPONENT-204bCOMPONENT-205bCOMPONENT-206",
   "bCOMPONENT-207bCOMPONENT-208bCOMPONENT-209bCOMPONENT-210bCOMPONENT-211bCOMPONENT-212",
   "bCOMPONENT-213bCOMPONENT-214bCOMPONENT-215bCOMPONENT-216bCOMPONENT-217bCOMPONENT-218",
   "bCOMPONENT-219bCOMPONENT-220bCOMPONENT-221bCOMPONENT-222bCOMPONENT-223bCOMPONENT-224",
   "bCOMPONENT-225bCOMPONENT-226bCOMPONENT-227bCOMPONENT-228bCOMPONENT-229bCOMPONENT-230",
   "bCOMPONENT-231bCOMPONENT-232bCOMPONENT-233bCOMPONENT-234bCOMPONENT-235bCOMPONENT-236",
   "bCOMPONENT-237bCOMPONENT-238bCOMPONENT-239bCOMPONENT-240bCOMPONENT-241bCOMPONENT-242",
   "bCOMPONENT-243bCOMPONENT-244bCOMPONENT-245bCOMPONENT-246bCOMPONENT-247bCOMPONENT-248",
   "bCOMPONENT-249bCOMPONENT-250bCOMPONENT-251bCOMPONENT-252bCOMPONENT-253bCOMPONENT-254",
   "bCOMPONENT-255bCOMPONENT-256bCOMPONENT-257bCOMPONENT-258bCOMPONENT-259bCOMPONENT-260",
   "bCOMPONENT-261bCOMPONENT-262bCOMPONENT-263bCOMPONENT-264bCOMPONENT-265bCOMPONENT-266",
   "bCOMPONENT-267bCOMPONENT-268bCOMPONENT-269bCOMPONENT-270bCOMPONENT-271bCOMPONENT-272",
   "bCOMPONENT-273bCOMPONENT-274bCOMPONENT-275bCOMPONENT-276bCOMPONENT-277bCOMPONENT-278",
   "bCOMPONENT-279bCOMPONENT-280bCOMPONENT-281bCOMPONENT-282bCOMPONENT-283bCOMPONENT-284",
   "bCOMPONENT-285bCOMPONENT-286bCOMPONENT-287bCOMPONENT-288bCOMPONENT-289bCOMPONENT-290",
   "bCOMPONENT-291bCOMPONENT-292bCOMPONENT-293bCOMPONENT-294bCOMPONENT-295bCOMPONENT-296",
   "bCOMPONENT-297bCOMPONENT-298bCOMPONENT-299bCOMPONENT-300bCOMPONENT-301bCOMPONENT-302",
   "bCOMPONENT-303bCOMPONENT-304bCOMPONENT-305bCOMPONENT-306bCOMPONENT-307bCOMPONENT-308",
   "bCOMPONENT-309bCOMPONENT-310bCOMPONENT-311bCOMPONENT-312bCOMPONENT-313bCOMPONENT-314",
   "bCOMPONENT-315bCOMPONENT-316bCOMPONENT-317bCOMPONENT-318bCOMPONENT-319bCOMPONENT-320",
   "bCOMPONENT-321bCOMPONENT-322bCOMPONENT-323bCOMPONENT-324bCOMPONENT-325bCOMPONENT-326",
   "bCOMPONENT-327bCOMPONENT-328bCOMPONENT-329bCOMPONENT-330bCOMPONENT-331bCOMPONENT-332",
   "bCOMPONENT-333bCOMPONENT-334bCOMPONENT-335bCOMPONENT-336bCOMPONENT-337bCOMPONENT-338",
   "bCOMPONENT-339bCOMPONENT-340bCOMPONENT-341bCOMPONENT-342bCOMPONENT-343bCOMPONENT-344",
   "bCOMPONENT-345bCOMPONENT-346bCOMPONENT-347bCOMPONENT-348bCOMPONENT-349bCOMPONENT-350",
   "bCOMPONENT-351bCOMPONENT-352bCOMPONENT-353bCOMPONENT-354bCOMPONENT-355bCOMPONENT-356",
   "bCOMPONENT-357bCOMPONENT-358bCOMPONENT-359bCOMPONENT-360bCOMPONENT-361bCOMPONENT-362",
   "bCOMPONENT-363bCOMPONENT-364bCOMPONENT-365bCOMPONENT-366bCOMPONENT-367bCOMPONENT-368",
   "bCOMPONENT-369bCOMPONENT-370bCOMPONENT-371bCOMPONENT-372bCOMPONENT-373bCOMPONENT-374",
   "bCOMPONENT-375bCOMPONENT-376bCOMPONENT-377bCOMPONENT-378bCOMPONENT-379bCOMPONENT-380",
   "bCOMPONENT-381bCOMPONENT-382bCOMPONENT-383bCOMPONENT-384bCOMPONENT-385bCOMPONENT-386",
   "bCOMPONENT-387bCOMPONENT-388bCOMPONENT-389bCOMPONENT-390bCOMPONENT-391bCOMPONENT-392",
   "bCOMPONENT-393bCOMPONENT-394bCOMPONENT-395bCOMPONENT-396bCOMPONENT-397bCOMPONENT-398",
   "bCOMPONENT-399bCOMPONENT-400bCOMPONENT-401bCOMPONENT-402bCOMPONENT-403bCOMPONENT-404",
   "bCOMPONENT-405bCOMPONENT-406bCOMPONENT-407bCOMPONENT-408bCOMPONENT-409bCOMPONENT-410",
   "bCOMPONENT-411bCOMPONENT-412bCOMPONENT-413bCOMPONENT-414bCOMPONENT-415bCOMPONENT-416",
   "bCOMPONENT-417bCOMPONENT-418bCOMPONENT-419bCOMPONENT-420bCOMPONENT-421bCOMPONENT-422",
   "bCOMPONENT-423bCOMPONENT-424bCOMPONENT-425bCOMPONENT-426bCOMPONENT-427bCOMPONENT-428",
   "bCOMPONENT-429bCOMPONENT-430bCOMPONENT-431bCOMPONENT-432bCOMPONENT-433bCOMPONENT-434",
   "bCOMPONENT-435bCOMPONENT-436bCOMPONENT-437bCOMPONENT-438bCOMPONENT-439bCOMPONENT-440",
   "bCOMPONENT-441bCOMPONENT-442bCOMPONENT-443bCOMPONENT-444bCOMPONENT-445bCOMPONENT-446",
   "bCOMPONENT-447bCOMPONENT-448bCOMPONENT-449bCOMPONENT-450bCOMPONENT-451bCOMPONENT-452",
   "bCOMPONENT-453bCOMPONENT-454bCOMPONENT-455bCOMPONENT-456bCOMPONENT-457bCOMPONENT-458",
   "bCOMPONENT-459bCOMPONENT-460bCOMPONENT-461bCOMPONENT-462bCOMPONENT-463bCOMPONENT-464",
   "bCOMPONENT-465bCOMPONENT-466bCOMPONENT-467bCOMPONENT-468bCOMPONENT-469bCOMPONENT-470",
   "bCOMPONENT-471bCOMPONENT-472bCOMPONENT-473bCOMPONENT-474bCOMPONENT-475bCOMPONENT-476",
   "bCOMPONENT-477bCOMPONENT-478bCOMPONENT-479bCOMPONENT-480bCOMPONENT-481bCOMPONENT-482",
   "bCOMPONENT-483bCOMPONENT-484bCOMPONENT-485bCOMPONENT-486bCOMPONENT-487bCOMPONENT-488",
   "bCOMPONENT-489bCOMPONENT-490bCOMPONENT-491bCOMPONENT-492bCOMPONENT-493bCOMPONENT-494",
   "bCOMPONENT-495bCOMPONENT-496bCOMPONENT-497bCOMPONENT-498bCOMPONENT-499bCOMPONENT-500",
   "bCOMPONENT-501bCOMPONENT-502bCOMPONENT-503bCOMPONENT-504bCOMPONENT-505bCOMPONENT-506",
   "bCOMPONENT-507bCOMPONENT-508bCOMPONENT-509bCOMPONENT-510bCOMPONENT-511bCOMPONENT-512",
   "bCOMPONENT-513bCOMPONENT-514bCOMPONENT-515bCOMPONENT-516bCOMPONENT-517bCOMPONENT-518",
   "bCOMPONENT-519bCOMPONENT-520bCOMPONENT-521bCOMPONENT-522bCOMPONENT-523bCOMPONENT-524",
   "bCOMPONENT-525bCOMPONENT-526bCOMPONENT-527bCOMPONENT-528bCOMPONENT-529bCOMPONENT-530",
   "bCOMPONENT-531bCOMPONENT-532bCOMPONENT-533bCOMPONENT-534bCOMPONENT-535bCOMPONENT-536",
   "bCOMPONENT-537bCOMPONENT-538bCOMPONENT-539bCOMPONENT-540bCOMPONENT-541bCOMPONENT-542",
   "bCOMPONENT-543bCOMPONENT-544bCOMPONENT-545bCOMPONENT-546bCOMPONENT-547bCOMPONENT-548",
   "bCOMPONENT-549bCOMPONENT-550bCOMPONENT-551bCOMPONENT-552bCOMPONENT-553bCOMPONENT-554",
   "bCOMPONENT-555bCOMPONENT-556bCOMPONENT-557bCOMPONENT-558bCOMPONENT-559bCOMPONENT-560",
   "bCOMPONENT-561bCOMPONENT-562bCOMPONENT-563bCOMPONENT-564bCOMPONENT-565bCOMPONENT-566",
   "bCOMPONENT-567bCOMPONENT-568bCOMPONENT-569bCOMPONENT-570bCOMPONENT-571bCOMPONENT-572",
   "bCOMPONENT-573bCOMPONENT-574bCOMPONENT-575bCOMPONENT-576bCOMPONENT-577bCOMPONENT-578",
   "bCOMPONENT-579bCOMPONENT-580bCOMPONENT-581bCOMPONENT-582bCOMPONENT-583bCOMPONENT-584",
   "bCOMPONENT-585bCOMPONENT-586bCOMPONENT-587bCOMPONENT-588bCOMPONENT-589bCOMPONENT-590",
   "bCOMPONENT-591bCOMPONENT-592bCOMPONENT-593bCOMPONENT-594bCOMPONENT-595bCOMPONENT-596",
   "bCOMPONENT-597bCOMPONENT-598bCOMPONENT-599bCOMPONENT-600bCOMPONENT-601bCOMPONENT-602",
   "bCOMPONENT-603bCOMPONENT-604bCOMPONENT-605bCOMPONENT-606bCOMPONENT-607bCOMPONENT-608",
   "bCOMPONENT-609bCOMPONENT-610bCOMPONENT-611bCOMPONENT-612bCOMPONENT-613bCOMPONENT-614",
   "bCOMPONENT-615bCOMPONENT-616bCOMPONENT-617bCOMPONENT-618bCOMPONENT-619bCOMPONENT-620",
   "bCOMPONENT-621bCOMPONENT-622bCOMPONENT-623bCOMPONENT-624bCOMPONENT-625bCOMPONENT-626",
   "bCOMPONENT-627bCOMPONENT-628bCOMPONENT-629bCOMPONENT-630bCOMPONENT-631bCOMPONENT-632",
   "bCOMPONENT-633bCOMPONENT-634bCOMPONENT-635bCOMPONENT-636bCOMPONENT-637bCOMPONENT-638",
   "bCOMPONENT-639bCOMPONENT-640bCOMPONENT-641bCOMPONENT-642bCOMPONENT-643bCOMPONENT-644",
   "bCOMPONENT-645bCOMPONENT-646bCOMPONENT-647bCOMPONENT-648bCOMPONENT-649bCOMPONENT-650",
   "bCOMPONENT-651bCOMPONENT-652bCOMPONENT-653bCOMPONENT-654bCOMPONENT-655bCOMPONENT-656",
   "bCOMPONENT-657bCOMPONENT-658bCOMPONENT-659bCOMPONENT-660bCOMPONENT-661bCOMPONENT-662",
   "bCOMPONENT-663bCOMPONENT-664bCOMPONENT-665bCOMPONENT-666bCOMPONENT-667bCOMPONENT-668",
   "bCOMPONENT-669bCOMPONENT-670bCOMPONENT-671bCOMPONENT-672bCOMPONENT-673bCOMPONENT-674",
   "bCOMPONENT-675bCOMPONENT-676bCOMPONENT-677bCOMPONENT-678bCOMPONENT-679bCOMPONENT-680",
   "bCOMPONENT-681bCOMPONENT-682bCOMPONENT-683bCOMPONENT-684bCOMPONENT-685bCOMPONENT-686",
   "bCOMPONENT-687bCOMPONENT-688bCOMPONENT-689bCOMPONENT-690bCOMPONENT-691bCOMPONENT-692",
   "bCOMPONENT-693bCOMPONENT-694bCOMPONENT-695bCOMPONENT-696bCOMPONENT-697bCOMPONENT-698",
   "bCOMPONENT-699bCOMPONENT-700bCOMPONENT-701bCOMPONENT-702bCOMPONENT-703bCOMPONENT-704",
   "bCOMPONENT-705bCOMPONENT-706bCOMPONENT-707bCOMPONENT-708bCOMPONENT-709bCOMPONENT-710",
   "bCOMPONENT-711bCOMPONENT-712bCOMPONENT-713bCOMPONENT-714bCOMPONENT-715bCOMPONENT-716",
   "bCOMPONENT-717bCOMPONENT-718bCOMPONENT-719bCOMPONENT-720bCOMPONENT-721bCOMPONENT-722",
   "bCOMPONENT-723bCOMPONENT-724bCOMPONENT-725bCOMPONENT-726bCOMPONENT-727bCOMPONENT-728",
   "bCOMPONENT-729bCOMPONENT-730bCOMPONENT-731bCOMPONENT-732bCOMPONENT-733bCOMPONENT-734",
   "bCOMPONENT-735bCOMPONENT-736bCOMPONENT-737bCOMPONENT-738bCOMPONENT-739bCOMPONENT-740",
   "bCOMPONENT-741bCOMPONENT-742bCOMPONENT-743bCOMPONENT-744bCOMPONENT-745bCOMPONENT-746",
   "bCOMPONENT-747bCOMPONENT-748bCOMPONENT-749bCOMPONENT-750bCOMPONENT-751bCOMPONENT-752",
   "bCOMPONENT-753bCOMPONENT-754bCOMPONENT-755bCOMPONENT-756bCOMPONENT-757bCOMPONENT-758",
   "bCOMPONENT-759bCOMPONENT-760bCOMPONENT-761bCOMPONENT-762bCOMPONENT-763bCOMPONENT-764",
   "bCOMPONENT-765bCOMPONENT-766bCOMPONENT-767bCOMPONENT-768bITERATION MARKaTAPE CARTRIDGEbDRIVE",
   "aTAURUSaTAXIaTEACUP WITHOUT HANDLEaTEAPOTaTEAR-OFF CALENDARaTEARDROP-BARBED RIGHTWARDS ARROW",
   "aTEARDROP-SPOKED ASTERISKaTEDDY BEARaTELEPHONE LOCATION SIGNbON TOP OF MODEMbRECEIVER",
   "cWITH PAGEbRECORDERbSIGNaTELESCOPEaTELEVISIONaTELUGU AI LENGTH MARKbDIGIT EIGHTcFIVEcFOURcNINE",
   "cONEcSEVENcSIXcTHREEcTWOcZERObFRACTION DIGIT ONE FOR EVEN POWERS OF FOURfODD POWERS OF FOUR",
   "dTHREE FOR EVEN POWERS OF FOURfODD POWERS OF FOURdTWO FOR EVEN POWERS OF FOUR",
   "fODD POWERS OF FOURdZERO FOR ODD POWERS OF FOURbLENGTH MARKbLETTER AcAAcAIcAUcBAcBHAcCAcCHAcDA",
   "cDDAcDDHAcDHAcDZAcEcEEcGAcGHAcHAcIcIIcJAcJHAcKAcKHAcLAcLLAcLLLAcMAcNAcNAKAARA POLLUcNGAcNNA",
   "cNYAcOcOOcPAcPHAcRAcRRAcRRRAcSAcSHAcSSAcTAcTHAcTSAcTTAcTTHAcUcUUcVAcVOCALIC LdLLdRdRRcYA",
   "bSIGN ANUSVARAcAVAGRAHAcCANDRABINDUcCOMBINING ANUSVARA ABOVEdCANDRABINDU ABOVEcNUKTAcSIDDHAM",
   "cTUUMUcVIRAMAcVISARGAbVOWEL SIGN AAdAIdAUdEdEEdIdIIdOdOOdUdUUdVOCALIC LeLLeReRRaTENGE SIGN",
   "aTENNIS RACQUET AND BALLaTENTaTEST TUBEaTETRAGRAM FOR ACCUMULATIONcADVANCEcAGGRAVATIONcASCENT",
   "cBARRIERcBOLD RESOLUTIONcBRANCHING OUTcCENTREcCHANGEcCLOSED MOUTHcCLOSENESScCLOSUREcCOMPLETION",
   "cCOMPLIANCEcCONSTANCYcCONTACTcCONTENTIONcCONTRARIETYcDARKENINGcDECISIVENESS",
   "cDEFECTIVENESS OR DISTORTIONcDEPARTUREcDIFFICULTIEScDIMINISHMENTcDIMMINGcDIVERGENCEcDOUBT",
   "cDUTIEScEASEcEMBELLISHMENTcENCOUNTERScENDEAVOURcENLARGEMENTcETERNITYcEXHAUSTIONcFAILUREcFLIGHT",
   "cFOLLOWINGcFOSTERINGcFULL CIRCLEcFULLNESScGATHERINGdINcGOING TO MEETcGREATNESScGUARDEDNESS",
   "cHARDNESScHOLDING BACKcINCREASEcINNERcJOYcKEEPING SMALLcKINSHIPcLABOURINGcLAW OR MODELcLEGION",
   "cMASSINGcMEASUREcMIREDcON THE VERGEcOPPOSITIONcPACKINGcPATTERNcPENETRATIONcPURITYcREACH",
   "cRELEASEcRESIDENCEcRESISTANCEcRESPONSEcRITUALcSEVERANCEcSINKINGcSTOPPAGEcSTOVEcSTRENGTHcUNITY",
   "cVASTNESS OR WASTINGcWAITINGcWATCHcYOUTHFULNESSaTHAANA AABAAFILIbABAFILIbEBEFILIbEEBEEFILI",
   "bEYBEYFILIbIBIFILIbLETTER AINUcALIFUcBAAcCHAVIYANIcDAADHUcDAVIYANIcDHAALUcFAAFUcGAAFUcGHAINU",
   "cGNAVIYANIcHAAcHHAAcJAVIYANIcKAAFUcKHAAcLAAMUcLHAVIYANIcMEEMUcNAAcNOONUcPAVIYANIcQAAFUcRAA",
   "cSAADHUcSEENUcSHAVIYANIcSHEENUcTAVIYANIcTHAAcTHAALUcTOcTTAAcVAAVUcWAAVUcYAAcZAAcZAVIYANIcZO",
   "bOABOAFILIbOBOFILIbOOBOOFILIbSUKUNbUBUFILIaTHAI CHARACTER ANGKHANKHUcBO BAIMAIcCHO CHANdCHANG",
   "dCHINGdCHOEcDO CHADAdDEKcFO FAdFANcFONGMANcHO HIPdNOKHUKcKHO KHAIdKHONdKHUATdKHWAIdRAKHANG",
   "cKHOMUTcKO KAIcLAKKHANGYAOcLO CHULAdLINGcLUcMAI CHATTAWAdEKdHAN-AKATdTHOdTRIcMAITAIKHU",
   "cMAIYAMOKcMO MAcNGO NGUcNIKHAHITcNO NENdNUcO ANGcPAIYANNOIcPHINTHUcPHO PHANdPHUNGdSAMPHAO",
   "cPO PLAcRO RUAcRUcSARA AdAAdAEdAI MAIMALAIeMAIMUANdAMdEdIdIIdOdUdUEdUEEdUUcSO RUSIdSALAdSOdSUA",
   "cTHANTHAKHATcTHO NANGMONTHOdPHUTHAOdTHAHANdTHANdTHONGdTHUNGcTO PATAKdTAOcWO WAENcYAMAKKAN",
   "cYO YAKdYINGbCURRENCY SYMBOL BAHTbDIGIT EIGHTcFIVEcFOURcNINEcONEcSEVENcSIXcTHREEcTWOcZERO",
   "aTHERE DOES NOT EXISTbEXISTSaTHEREFOREaTHERMODYNAMICaTHERMOMETERaTHIN GREEK CROSSbSALTIRE",
   "bSPACEaTHINKING FACEaTHIRD PLACE MEDALaTHONG SANDALaTHOUGHT BALLOONaTHREE BUTTON MOUSE",
   "bCONSECUTIVE EQUALS SIGNSbDIMENSIONAL ANGLEbDOT PUNCTUATIONbLEFTWARDS ARROWS",
   "bLINES CONVERGING LEFTdRIGHTbNETWORKED COMPUTERSbPOINTED BLACK STARbRAYS ABOVEcBELOWcLEFT",
   "cRIGHTbRIGHTWARDS ARROWSbSPEECH BUBBLESaTHREE-D BOTTOM-LIGHTED RIGHTWARDS ARROWHEAD",
   "bLEFT-LIGHTED DOWNWARDS EQUILATERAL ARROWHEADbRIGHT-LIGHTED UPWARDS EQUILATERAL ARROWHEAD",
   "bTOP-LIGHTED LEFTWARDS EQUILATERAL ARROWHEADcRIGHTWARDS ARROWHEADdEQUILATERAL ARROWHEAD",
   "aTHREE-EM DASHaTHREE-PER-EM SPACEaTHUMBS DOWN SIGNbUP SIGNaTHUNDER CLOUD AND RAINaTHUNDERSTORM",
   "aTIBETAN ASTROLOGICAL SIGN -KHYUD PAdSDONG TSHUGSdSGRA GCAN -CHAR RTAGS",
   "bCANTILLATION SIGN CANG TE-UdHEAVY BEATdLIGHT BEATdSBUB -CHALbDIGIT EIGHTcFIVEcFOURcHALF EIGHT",
   "dFIVEdFOURdNINEdONEdSEVENdSIXdTHREEdTWOdZEROcNINEcONEcSEVENcSIXcTHREEcTWOcZERObKU RU KHA",
   "eBZHI MIG CANbLETTER -AcAcBAcBHAcCAcCHAcDAcDDAcDDHAcDHAcDZAcDZHAcFIXED-FORM RAcGAcGHAcHAcJAcKA",
   "cKHAcKKAcKSSAcLAcMAcNAcNGAcNNAcNYAcPAcPHAcRAcRRAcSAcSHAcSSAcTAcTHAcTSAcTSHAcTTAcTTHAcWAcYAcZA",
   "cZHAbLOGOTYPE SIGN CHAD RTAGSdLHAG RTAGSbMARK ANG KHANG GYASeGYONcBKA- SHOG GI MGO RGYAN",
   "eYIG MGOcBSDUS RTAGScBSKA- SHOG GI MGO RGYANcBSKUR YIG MGOcCARET -DZUD RTAGS BZHI MIG CAN",
   "fME LONG CANdYIG MGO PHUR SHAD MAcCHE MGOcCLOSING BRDA RNYING YIG MGO SGAB MAdYIG MGO SGAB MA",
   "cDELIMITER TSHEG BSTARcGTER TSHEGdYIG MGO -UM GTER TSHEG MAgRNAM BCAD MAfTRUNCATED A",
   "cGUG RTAGS GYASeGYONcHALANTAcINITIAL BRDA RNYING YIG MGO MDUN MAdYIG MGO MDUN MA",
   "cINTERSYLLABIC TSHEGcLEADING MCHAN RTAGScMNYAM YIG GI MGO RGYANcNGAS BZUNG NYI ZLAeSGOR RTAGS",
   "cNYIS SHADdTSHEGeSHADcPALUTAcRGYA GRAM SHADcRIN CHEN SPUNGS SHADcSBRUL SHADcSHAD",
   "cTRAILING MCHAN RTAGScTSA -PHRUcTSHEG SHADcYIG MGO TSHEG SHAD MAbSIGN GRU CAN RGYINGS",
   "dMED RGYINGScINVERTED MCHU CANcLCE TSA CANcLCI RTAGScMAR TSHEScMCHU CANcNYI ZLA NAA DA",
   "cRDEL DKAR GCIGeGNYISeGSUMeRDEL NAGdNAG GCIGeGNYISeGSUMeRDEL DKARcRJES SU NGA ROcRNAM BCAD",
   "cSNA LDANcYANG RTAGScYAR TSHESbSUBJOINED LETTER -AdAdBAdBHAdCAdCHAdDAdDDAdDDHAdDHAdDZAdDZHA",
   "dFIXED-FORM RAeWAeYAdGAdGHAdHAdJAdKAdKHAdKSSAdLAdMAdNAdNGAdNNAdNYAdPAdPHAdRAdSAdSHAdSSAdTAdTHA",
   "dTSAdTSHAdTTAdTTHAdWAdYAdZAdZHAcSIGN INVERTED MCHU CANdLCE TSA CANdMCHU CANbSYLLABLE OM",
   "bSYMBOL DRIL BUcNOR BUeBZHI -KHYILeGSUM -KHYILeNYIS -KHYILcPADMA GDANcPHUR PAcRDO RJE",
   "eRGYA GRAMbVOWEL SIGN AAdEdEEdIdIIdOdOOdREVERSED IeIIdUdUUdVOCALIC LeLLeReRRaTICKET",
   "aTIE OVER INFINITYaTIFINAGH CONSONANT JOINERbLETTER AHAGGAR YAZHcAYER YAGHcBERBER ACADEMY YAH",
   "eYAJcTAWELLEMET YAZcTUAREG YAGHdYAGNdYAHdYAKdYAKHdYANGdYAQdYAZHcYAcYAAcYABcYABHcYACHcYADcYADD",
   "cYADDHcYADHcYAFcYAGcYAGHcYAGHHcYAHcYAHHcYAJcYAKcYAKHcYAKHHcYALcYAMcYANcYAPcYAQcYARcYARRcYAS",
   "cYASHcYASScYATcYATHcYATTcYAVcYAWcYAYcYAZcYAZHcYAZZcYEcYEYcYIcYOcYU",
   "bMODIFIER LETTER LABIALIZATION MARKbSEPARATOR MARKaTIGERbFACEaTIGHT TRIFOLIATE SNOWFLAKEaTILDE",
   "bOPERATORcABOVE LEFTWARDS ARROWdRIGHTWARDS ARROWcWITH DOT ABOVEdRISING DOTSbWITH DOT ABOVE",
   "dBELOWcRING ABOVEaTIMER CLOCKaTIMES WITH LEFT HALF BLACKcRIGHT HALF BLACKaTINY",
   "bTWO DOTS OVER ONE DOT PUNCTUATIONaTIRED FACEaTIRHUTA ABBREVIATION SIGNbANJIbDIGIT EIGHTcFIVE",
   "cFOURcNINEcONEcSEVENcSIXcTHREEcTWOcZERObGVANGbLETTER AcAAcAIcAUcBAcBHAcCAcCHAcDAcDDAcDDHAcDHA",
   "cEcGAcGHAcHAcIcIIcJAcJHAcKAcKHAcLAcMAcNAcNGAcNNAcNYAcOcPAcPHAcRAcSAcSHAcSSAcTAcTHAcTTAcTTHAcU",
   "cUUcVAcVOCALIC LdLLdRdRRcYAbOMbSIGN ANUSVARAcAVAGRAHAcCANDRABINDUcNUKTAcVIRAMAcVISARGA",
   "bVOWEL SIGN AAdAIdAUdEdIdIIdOdSHORT EeOdUdUUdVOCALIC LeLLeReRRaTIRONIAN SIGN CAPITAL ETcET",
   "aTOILETaTOKYO TOWERaTOMATOaTONGUEaTOOLBOXaTOOTHaTOOTHBRUSHaTOP ARC ANTICLOCKWISE ARROW",
   "eWITH PLUScCLOCKWISE ARROW WITH MINUSbCURLY BRACKETbHALF BLACK CIRCLEcINTEGRAL",
   "cLEFT PARENTHESIScRIGHT PARENTHESIScSECTION SIGNbHATbLEFT CORNERcCROPcHALF BRACKETbPARENTHESIS",
   "bRIGHT CORNERcCROPcHALF BRACKETbSQUARE BRACKETbTORTOISE SHELL BRACKETbWITH UPWARDS ARROW ABOVE",
   "aTORTOISE SHELL BRACKETED CJK UNIFIED IDEOGRAPH-4E09fIDEOGRAPH-4E8CfIDEOGRAPH-52DD",
   "fIDEOGRAPH-5B89fIDEOGRAPH-6253fIDEOGRAPH-6557fIDEOGRAPH-672CfIDEOGRAPH-70B9fIDEOGRAPH-76D7",
   "dLATIN CAPITAL LETTER SaTOTAL RUNOUTaTOTO LETTER AcAEcBAcBREATHY AEdEdEOdIdIUcCHAcDAcEcEOcGA",
   "cHAcIcIUcJAcKAcLAcMAcNAcNGAcOcPAcRAcSAcTAcUcWAcYAbSIGN RISING TONEaTRACKBALLaTRACTOR",
   "aTRADE MARK SIGNaTRAINaTRAMbCARaTRANSPLUTOaTRANSVERSAL INTERSECTIONaTRIANGLE WITH DOT ABOVE",
   "cROUNDED CORNERScSERIFS AT BOTTOMcUNDERBARaTRIANGLE-HEADED RIGHTWARDS ARROWaTRIANGULAR BULLET",
   "bFLAG ON POSTbRULERaTRICOLONaTRIDENT EMBLEMaTRIGRAM FOR EARTHcFIREcHEAVENcLAKEcMOUNTAIN",
   "cTHUNDERcWATERcWINDaTRIPLE COLON OPERATORbDAGGERbHORIZONTAL BAR WITH DOUBLE VERTICAL STROKE",
   "eTRIPLE VERTICAL STROKEbINTEGRALbNESTED GREATER-THANcLESS-THANbPLUSbPRIME",
   "bSOLIDUS BINARY RELATIONbTILDEbVERTICAL BAR BINARY RELATIONdDELIMITERdRIGHT TURNSTILE",
   "dWITH HORIZONTAL STROKEaTROLLaTROLLEYBUSaTROPHYaTROPICAL DRINKbFISHaTRUEbLIGHT MOON ARTA",
   "aTRUMPETaTUGRIK SIGNaTULIPaTUMBLER GLASSaTURKEYaTURKISH LIRA SIGNaTURNED AMPERSANDbANGLE",
   "bBLACK PENTAGONcSHOGI PIECEbCAPITAL FbCOMMAbDAGGERbDIGIT THREEcTWObGREEK SMALL LETTER IOTA",
   "bNORTH EAST POINTING LEAFcWEST POINTING LEAFbNOT SIGNbOK HAND SIGNbSANS-SERIF CAPITAL GdLdY",
   "bSEMICOLONbSMALL FbSOUTH EAST POINTING LEAFcWEST POINTING LEAFbWHITE SHOGI PIECEaTURTLE",
   "aTWELVE POINTED BLACK STARaTWISTED RIGHTWARDS ARROWSaTWO ASTERISKS ALIGNED VERTICALLY",
   "bBUTTON MOUSEbCONSECUTIVE EQUALS SIGNSbDOT LEADERcPUNCTUATIONbDOTS OVER ONE DOT PUNCTUATION",
   "bHEARTSbINTERSECTING LOGICAL ANDdORbJOINED SQUARESbLOGICAL AND OPERATORcOR OPERATOR",
   "bMEN HOLDING HANDSbSPEECH BUBBLESbWOMEN HOLDING HANDSaTWO-EM DASHaUGARITIC LETTER AINcALPA",
   "cBETAcDELTAcDHALcGAMLAcGHAINcHOcHOTAcIcKAFcKHAcLAMDAcMEMcNUNcPUcQOPAcRASHAcSADEcSAMKAcSHINcSSU",
   "cTETcTHANNAcTOcUcWOcYODcZETAcZUbWORD DIVIDERaUMBRELLAbON GROUNDbWITH RAIN DROPSaUNAMUSED FACE",
   "aUNCERTAINTY SIGNaUNDERTIEaUNDO SYMBOLaUNICORN FACEaUNIONbABOVE BAR ABOVE INTERSECTION",
   "cINTERSECTIONbBESIDE AND JOINED WITH UNIONbWITH LOGICAL ORcMINUS SIGNcOVERBARaUNIT SEPARATOR",
   "aUNITED SYMBOLaUNIVERSAL RECYCLING SYMBOLaUNMARRIED PARTNERSHIP SYMBOLaUP ARROW THROUGH CIRCLE",
   "bARROWHEADcBETWEEN TWO HORIZONTAL BARScIN A RECTANGLE BOXbBARB LEFT DOWN BARB LEFT HARPOON",
   "fRIGHT HARPOONcRIGHT DOWN BARB LEFT HARPOONfRIGHT HARPOONbDOWN ARROWdWITH BASEcBLACK ARROW",
   "cDOUBLE ARROWcSANS-SERIF ARROWcTRIANGLE-HEADED ARROWcWHITE ARROWbFISH TAIL",
   "bRIGHT DIAGONAL ELLIPSISbTACKcWITH CIRCLE ABOVEaUP-POINTING AIRPLANEbMILITARY AIRPLANE",
   "bRED TRIANGLEbSMALL AIRPLANEcRED TRIANGLEbTRIANGLE WITH LEFT HALF BLACKdRIGHT HALF BLACK",
   "aUPPER AND LEFT AND LOWER TRIANGULAR THREE QUARTERS BLOCKcLOWER ONE EIGHTH BLOCK",
   "dTRIANGULAR HALF BLOCKcRIGHT AND LOWER TRIANGULAR THREE QUARTERS BLOCKbBLADE SCISSORS",
   "bFIVE EIGHTHS BLOCKbHALF BLOCKdAND LOWER HALF INVERSE MEDIUM SHADEcCIRCLE",
   "cINVERSE MEDIUM SHADE AND LOWER HALF BLOCKdWHITE CIRCLEcMEDIUM SHADE",
   "bLEFT BLOCK DIAGONAL LOWER CENTRE TO LOWER MIDDLE RIGHThUPPER MIDDLE RIGHTiRIGHT",
   "fLEFT TO LOWER MIDDLE RIGHThUPPER CENTREiMIDDLE RIGHTfMIDDLE LEFT TO UPPER CENTREjMIDDLE RIGHT",
   "jRIGHTeUPPER MIDDLE LEFT TO UPPER CENTREjRIGHTcCORNER WITH DOT",
   "cOR LOWER RIGHT CURLY BRACKET SECTIONcQUADRANT CIRCULAR ARCcTO LOWER RIGHT FILLcTRIANGLE",
   "cTRIANGULAR MEDIUM SHADEbONE EIGHTH BLOCKcQUARTER BLOCK",
   "bRIGHT BLOCK DIAGONAL LOWER MIDDLE LEFT TO LOWER CENTREjRIGHT",
   "eUPPER CENTRE TO LOWER MIDDLE RIGHTiRIGHThUPPER MIDDLE RIGHTfLEFT TO LOWER CENTREiMIDDLE RIGHT",
   "hUPPER MIDDLE RIGHTfMIDDLE LEFT TO LOWER CENTREjMIDDLE RIGHTjRIGHTcDROP-SHADOWED WHITE SQUARE",
   "cOR LOWER LEFT CURLY BRACKET SECTIONcPENCILcQUADRANT CIRCULAR ARCcSHADOWED WHITE CIRCLEeSQUARE",
   "cTO LOWER LEFT FILLcTRIANGLEcTRIANGULAR MEDIUM SHADEbSEVEN EIGHTHS BLOCKbTHREE EIGHTHS BLOCK",
   "cQUARTERS BLOCKbTRIANGULAR ONE QUARTER BLOCKaUPSIDE-DOWN FACEaUPWARDS ANCORAbARROW",
   "cAND RIGHT ONE EIGHTH BLOCKcFROM BARcLEFTWARDS OF DOWNWARDS ARROWcTO BARcWITH DOUBLE STROKE",
   "dEQUILATERAL ARROWHEADdHORIZONTAL STROKEdLARGE TRIANGLE ARROWHEADdMEDIUM TRIANGLE ARROWHEAD",
   "dNOTCHED TAILdSMALL EQUILATERAL ARROWHEADeTRIANGLE ARROWHEADdTIP LEFTWARDSeRIGHTWARDS",
   "bBLACK ARROWcCIRCLED WHITE ARROWbCOMPRESSED ARROWbDASHED ARROWbDOUBLE ARROWbFINGER-POST ARROW",
   "bHARPOON WITH BARB LEFT BESIDE DOWNWARDS HARPOON WITH BARB RIGHT",
   "gUPWARDS HARPOON WITH BARB RIGHTfFROM BARfTO BAReLEFTWARDSeRIGHT FROM BARfTO BAReRIGHTWARDS",
   "bHEAVY ARROWcCOMPRESSED ARROWbPAIRED ARROWSbQUADRUPLE ARROWbROCKETbSANS-SERIF ARROW",
   "bSQUARED ARROWbTRIANGLE ARROWHEADbTRIANGLE-HEADED ARROW",
   "dLEFTWARDS OF DOWNWARDS TRIANGLE-HEADED ARROWdTO BARdWITH BOLD SHAFTeDOUBLE HORIZONTAL STROKE",
   "eHEAVY SHAFTeLONG TIP LEFTWARDSgRIGHTWARDSeMEDIUM SHAFTeNARROW SHAFTeVERY HEAVY SHAFT",
   "cDASHED ARROWcPAIRED ARROWSbTRIPLE ARROWbTWO HEADED ARROWbTWO-HEADED ARROW FROM SMALL CIRCLE",
   "dWITH TRIANGLE ARROWHEADSbWHITE ARROWdFROM BARfWITH HORIZONTAL BARdON PEDESTAL",
   "fWITH HORIZONTAL BARgVERTICAL BARdWITHIN TRIANGLE ARROWHEADcDOUBLE ARROWeON PEDESTALaURANUSaUS",
   "aVAI COMMAbDIGIT EIGHTcFIVEcFOURcNINEcONEcSEVENcSIXcTHREEcTWOcZERObFULL STOPbQUESTION MARK",
   "bSYLLABLE AcANcBAcBEcBEEcBHAcBHEcBHEEcBHIcBHOcBHOOcBHUcBIcBOcBOOcBUcCAcCEcCEEcCIcCOcCOOcCUcDA",
   "cDEcDEEcDHAcDHEcDHEEcDHHAcDHHEcDHHEEcDHHIcDHHOcDHHOOcDHHUcDHIcDHOcDHOOcDHUcDIcDOcDOOcDUcEcEE",
   "cEENcENcFAcFEcFEEcFIcFOcFOOcFUcGAcGBAcGBEcGBEEcGBENcGBIcGBOcGBONcGBOOcGBUcGEcGEEcGENcGIcGOcGOO",
   "cGUcHAcHANcHEcHEEcHENcHIcHINcHOcHONcHOOcHUcHUNcIcINcJAcJEcJEEcJIcJOcJOOcJUcKAcKANcKEcKEEcKIcKO",
   "cKOOcKPAcKPANcKPEcKPEEcKPENcKPIcKPOcKPOOcKPUcKUcLAcLEcLEEcLENGTHENERcLIcLOcLOOcLUcMAcMBAcMBE",
   "cMBEEcMBIcMBOcMBOOcMBUcMEcMEEcMGBAcMGBEcMGBEEcMGBIcMGBOcMGBOOcMGBUcMIcMOcMOOcMUcNAcNDAcNDE",
   "cNDEEcNDIcNDOcNDOLE DOdFAdKAdMAdSOOcNDOOcNDUcNEcNEEcNGcNGANcNGENcNGGAcNGGEcNGGEEcNGGENcNGGI",
   "cNGGOcNGGOOcNGGUcNGONcNIcNJAcNJEcNJEEcNJIcNJOcNJOOcNJUcNOcNOOcNUcNYAcNYEcNYEEcNYIcNYOcNYOOcNYU",
   "cOcONcOOcOONcPAcPEcPEEcPIcPOcPOOcPUcRAcREcREEcRIcROcROOcRUcSAcSEcSEEcSHAcSHEcSHEEcSHIcSHOcSHOO",
   "cSHUcSIcSOcSOOcSUcTAcTEcTEEcTHAcTHEcTHEEcTHIcTHOcTHOOcTHUcTIcTOcTOOcTUcUcUNcVAcVEcVEEcVIcVO",
   "cVOOcVUcWAcWANcWEcWEEcWEENcWENcWIcWINcWOcWONcWOOcWOONcWUcWUNcYAcYEcYEEcYIcYOcYOOcYUcZAcZEcZEE",
   "cZHAcZHEcZHEEcZHIcZHOcZHOOcZHUcZIcZOcZOOcZUbSYMBOL BANGcDANGcDO-OcDOONGcFAAcFEENGcJONGcKEENG",
   "cKUNGcNIIcTAAcTINGcTONGaVAMPIREaVARIATION SELECTOR-1bSELECTOR-10bSELECTOR-100bSELECTOR-101",
   "bSELECTOR-102bSELECTOR-103bSELECTOR-104bSELECTOR-105bSELECTOR-106bSELECTOR-107bSELECTOR-108",
   "bSELECTOR-109bSELECTOR-11bSELECTOR-110bSELECTOR-111bSELECTOR-112bSELECTOR-113bSELECTOR-114",
   "bSELECTOR-115bSELECTOR-116bSELECTOR-117bSELECTOR-118bSELECTOR-119bSELECTOR-12bSELECTOR-120",
   "bSELECTOR-121bSELECTOR-122bSELECTOR-123bSELECTOR-124bSELECTOR-125bSELECTOR-126bSELECTOR-127",
   "bSELECTOR-128bSELECTOR-129bSELECTOR-13bSELECTOR-130bSELECTOR-131bSELECTOR-132bSELECTOR-133",
   "bSELECTOR-134bSELECTOR-135bSELECTOR-136bSELECTOR-137bSELECTOR-138bSELECTOR-139bSELECTOR-14",
   "bSELECTOR-140bSELECTOR-141bSELECTOR-142bSELECTOR-143bSELECTOR-144bSELECTOR-145bSELECTOR-146",
   "bSELECTOR-147bSELECTOR-148bSELECTOR-149bSELECTOR-15bSELECTOR-150bSELECTOR-151bSELECTOR-152",
   "bSELECTOR-153bSELECTOR-154bSELECTOR-155bSELECTOR-156bSELECTOR-157bSELECTOR-158bSELECTOR-159",
   "bSELECTOR-16bSELECTOR-160bSELECTOR-161bSELECTOR-162bSELECTOR-163bSELECTOR-164bSELECTOR-165",
   "bSELECTOR-166bSELECTOR-167bSELECTOR-168bSELECTOR-169bSELECTOR-17bSELECTOR-170bSELECTOR-171",
   "bSELECTOR-172bSELECTOR-173bSELECTOR-174bSELECTOR-175bSELECTOR-176bSELECTOR-177bSELECTOR-178",
   "bSELECTOR-179bSELECTOR-18bSELECTOR-180bSELECTOR-181bSELECTOR-182bSELECTOR-183bSELECTOR-184",
   "bSELECTOR-185bSELECTOR-186bSELECTOR-187bSELECTOR-188bSELECTOR-189bSELECTOR-19bSELECTOR-190",
   "bSELECTOR-191bSELECTOR-192bSELECTOR-193bSELECTOR-194bSELECTOR-195bSELECTOR-196bSELECTOR-197",
   "bSELECTOR-198bSELECTOR-199bSELECTOR-2bSELECTOR-20bSELECTOR-200bSELECTOR-201bSELECTOR-202",
   "bSELECTOR-203bSELECTOR-204bSELECTOR-205bSELECTOR-206bSELECTOR-207bSELECTOR-208bSELECTOR-209",
   "bSELECTOR-21bSELECTOR-210bSELECTOR-211bSELECTOR-212bSELECTOR-213bSELECTOR-214bSELECTOR-215",
   "bSELECTOR-216bSELECTOR-217bSELECTOR-218bSELECTOR-219bSELECTOR-22bSELECTOR-220bSELECTOR-221",
   "bSELECTOR-222bSELECTOR-223bSELECTOR-224bSELECTOR-225bSELECTOR-226bSELECTOR-227bSELECTOR-228",
   "bSELECTOR-229bSELECTOR-23bSELECTOR-230bSELECTOR-231bSELECTOR-232bSELECTOR-233bSELECTOR-234",
   "bSELECTOR-235bSELECTOR-236bSELECTOR-237bSELECTOR-238bSELECTOR-239bSELECTOR-24bSELECTOR-240",
   "bSELECTOR-241bSELECTOR-242bSELECTOR-243bSELECTOR-244bSELECTOR-245bSELECTOR-246bSELECTOR-247",
   "bSELECTOR-248bSELECTOR-249bSELECTOR-25bSELECTOR-250bSELECTOR-251bSELECTOR-252bSELECTOR-253",
   "bSELECTOR-254bSELECTOR-255bSELECTOR-256bSELECTOR-26bSELECTOR-27bSELECTOR-28bSELECTOR-29",
   "bSELECTOR-3bSELECTOR-30bSELECTOR-31bSELECTOR-32bSELECTOR-33bSELECTOR-34bSELECTOR-35",
   "bSELECTOR-36bSELECTOR-37bSELECTOR-38bSELECTOR-39bSELECTOR-4bSELECTOR-40bSELECTOR-41",
   "bSELECTOR-42bSELECTOR-43bSELECTOR-44bSELECTOR-45bSELECTOR-46bSELECTOR-47bSELECTOR-48",
   "bSELECTOR-49bSELECTOR-5bSELECTOR-50bSELECTOR-51bSELECTOR-52bSELECTOR-53bSELECTOR-54",
   "bSELECTOR-55bSELECTOR-56bSELECTOR-57bSELECTOR-58bSELECTOR-59bSELECTOR-6bSELECTOR-60",
   "bSELECTOR-61bSELECTOR-62bSELECTOR-63bSELECTOR-64bSELECTOR-65bSELECTOR-66bSELECTOR-67",
   "bSELECTOR-68bSELECTOR-69bSELECTOR-7bSELECTOR-70bSELECTOR-71bSELECTOR-72bSELECTOR-73",
   "bSELECTOR-74bSELECTOR-75bSELECTOR-76bSELECTOR-77bSELECTOR-78bSELECTOR-79bSELECTOR-8",
   "bSELECTOR-80bSELECTOR-81bSELECTOR-82bSELECTOR-83bSELECTOR-84bSELECTOR-85bSELECTOR-86",
   "bSELECTOR-87bSELECTOR-88bSELECTOR-89bSELECTOR-9bSELECTOR-90bSELECTOR-91bSELECTOR-92",
   "bSELECTOR-93bSELECTOR-94bSELECTOR-95bSELECTOR-96bSELECTOR-97bSELECTOR-98bSELECTOR-99",
   "aVECTOR OR CROSS PRODUCTaVEDIC SIGN ANUSVARA ANTARGOMUKHAdBAHIRGOMUKHAdUBHAYATO MUKHA",
   "dVAMAGOMUKHAeWITH TAILcARDHAVISARGAcATIKRAMAcDOUBLE ANUSVARA ANTARGOMUKHA",
   "cHEXIFORM LONG ANUSVARAcJIHVAMULIYAcLONG ANUSVARAcNIHSHVASAcREVERSED VISARGA ANUDATTAeUDATTA",
   "cROTATED ARDHAVISARGAcRTHANG LONG ANUSVARAcTIRYAKcUPADHMANIYAcVISARGA ANUDATTAeWITH TAIL",
   "dSVARITAdUDATTAeWITH TAILcYAJURVEDIC MIDLINE SVARITAbTONE ATHARVAVEDIC INDEPENDENT SVARITA",
   "cCANDRA ABOVEdBELOWcDOT BELOWcDOUBLE RING ABOVEdSVARITAcKARSHANAcKATHAKA ANUDATTAcPRENKHA",
   "cRIGVEDIC KASHMIRI INDEPENDENT SVARITAcRING ABOVEcSHARAcTHREE DOTS BELOWcTRIPLE SVARITA",
   "cTWO DOTS BELOWcYAJURVEDIC AGGRAVATED INDEPENDENT SVARITAdINDEPENDENT SVARITA",
   "dKATHAKA INDEPENDENT SVARITAgSCHROEDERaVERSICLEaVERTICAL BAR BESIDE RIGHT TRIANGLE",
   "cDOUBLE LEFT TURNSTILEcTRIPLE RIGHT TURNSTILEcWITH HORIZONTAL STROKEbELLIPSISbFOUR DOTS",
   "bIDEOGRAPHIC ITERATION MARKbKANA REPEAT MARKeLOWER HALFeUPPER HALFdWITH VOICED SOUND MARK",
   "hUPPER HALFbLINEcEXTENSIONcWITH CIRCLE ABOVEeBELOWdMIDDLE DOTbMALE WITH STROKE SIGN",
   "bONE EIGHTH BLOCK-2dBLOCK-3dBLOCK-4dBLOCK-5dBLOCK-6dBLOCK-7bSIX DOTSbTAB KEYbTABULATIONcSET",
   "bTILDEbTRAFFIC LIGHTbZIGZAG LINEaVERY BOLD GREEK CROSSbHEAVY EIGHT POINTED BLACK STAR",
   "dSPOKED ASTERISKcFIVE SPOKED ASTERISKcGREEK CROSScREVERSE SOLIDUScSALTIREcSIX SPOKED ASTERISK",
   "cSOLIDUScWHITE CIRCLEdSQUAREbMUCH GREATER-THANcLESS-THANaVESTAaVIBRATION MODEaVICTORY HAND",
   "aVIDEO CAMERAbGAMEaVIDEOCASSETTEaVIETNAMESE ALTERNATE READING MARK CAeNHAYaVIEWDATA SQUARE",
   "aVIOLINaVIRGOaVITHKUQI CAPITAL LETTER AdBBEdBEdCEdCHEdDEdDHEdEdEIdFEdGAdHAdHHAdIdIJEdJEdKAdLA",
   "dLLAdMEdNEdNJEdOdPEdQAdREdSEdSHEdTEdTHEdUdVEdXEdYdZEbSMALL LETTER AdBBEdBEdCEdCHEdDEdDHEdEdEI",
   "dFEdGAdHAdHHAdIdIJEdJEdKAdLAdLLAdMEdNEdNJEdOdPEdQAdREdSEdSHEdTEdTHEdUdVEdXEdYdZE",
   "aVOIDED GREEK CROSSaVOLCANOaVOLLEYBALLaVOLUME INTEGRALaVS1aVS10aVS100aVS101aVS102aVS103aVS104",
   "aVS105aVS106aVS107aVS108aVS109aVS11aVS110aVS111aVS112aVS113aVS114aVS115aVS116aVS117aVS118",
   "aVS119aVS12aVS120aVS121aVS122aVS123aVS124aVS125aVS126aVS127aVS128aVS129aVS13aVS130aVS131aVS132",
   "aVS133aVS134aVS135aVS136aVS137aVS138aVS139aVS14aVS140aVS141aVS142aVS143aVS144aVS145aVS146",
   "aVS147aVS148aVS149aVS15aVS150aVS151aVS152aVS153aVS154aVS155aVS156aVS157aVS158aVS159aVS16aVS160",
   "aVS161aVS162aVS163aVS164aVS165aVS166aVS167aVS168aVS169aVS17aVS170aVS171aVS172aVS173aVS174",
   "aVS175aVS176aVS177aVS178aVS179aVS18aVS180aVS181aVS182aVS183aVS184aVS185aVS186aVS187aVS188",
   "aVS189aVS19aVS190aVS191aVS192aVS193aVS194aVS195aVS196aVS197aVS198aVS199aVS2aVS20aVS200aVS201",
   "aVS202aVS203aVS204aVS205aVS206aVS207aVS208aVS209aVS21aVS210aVS211aVS212aVS213aVS214aVS215",
   "aVS216aVS217aVS218aVS219aVS22aVS220aVS221aVS222aVS223aVS224aVS225aVS226aVS227aVS228aVS229aVS23",
   "aVS230aVS231aVS232aVS233aVS234aVS235aVS236aVS237aVS238aVS239aVS24aVS240aVS241aVS242aVS243",
   "aVS244aVS245aVS246aVS247aVS248aVS249aVS25aVS250aVS251aVS252aVS253aVS254aVS255aVS256aVS26aVS27",
   "aVS28aVS29aVS3aVS30aVS31aVS32aVS33aVS34aVS35aVS36aVS37aVS38aVS39aVS4aVS40aVS41aVS42aVS43aVS44",
   "aVS45aVS46aVS47aVS48aVS49aVS5aVS50aVS51aVS52aVS53aVS54aVS55aVS56aVS57aVS58aVS59aVS6aVS60aVS61",
   "aVS62aVS63aVS64aVS65aVS66aVS67aVS68aVS69aVS7aVS70aVS71aVS72aVS73aVS74aVS75aVS76aVS77aVS78aVS79",
   "aVS8aVS80aVS81aVS82aVS83aVS84aVS85aVS86aVS87aVS88aVS89aVS9aVS90aVS91aVS92aVS93aVS94aVS95aVS96",
   "aVS97aVS98aVS99aVTaVTSaVULCANUSaVULGAR FRACTION FIVE EIGHTHSdSIXTHScFOUR FIFTHScONE EIGHTH",
   "dFIFTHdHALFdNINTHdQUARTERdSEVENTHdSIXTHdTENTHdTHIRDcSEVEN EIGHTHScTHREE EIGHTHSdFIFTHS",
   "dQUARTERScTWO FIFTHSdTHIRDScZERO THIRDSaWAFFLEaWANCHO DIGIT EIGHTcFIVEcFOURcNINEcONEcSEVENcSIX",
   "cTHREEcTWOcZERObLETTER AcAAcAANcAANGcANGcAUcBAcCAcDAcEcENcFAcGAcHAcIcINGcJAcKAcKHAcLAcLLHAcMA",
   "cNAcNGAcNYAcOcONcONGcPAcPHAcRAcSAcSHAcTAcTHAcTRAcTSAcUcUENcVAcWAcYAcYIHcZAbNGUN SIGNbTONE KOI",
   "cKOINIcTUPcTUPNIaWANING CRESCENT MOON SYMBOLbGIBBOUS MOON SYMBOLaWARANG CITI CAPITAL LETTER A",
   "eAMeANGeATeBUeDAeEeENNeENYeGAeHAReHIYOeHOLOeHORReIIeKOeNGAAeNUNGeOeODDePUeSIIeSSUUeTTEeUCeUU",
   "eVIYOeWIeYAeYOeYUeYUJcDIGIT EIGHTdFIVEdFOURdNINEdONEdSEVENdSIXdTHREEdTWOdZEROcNUMBER EIGHTY",
   "dFIFTYdFORTYdNINETYdSEVENTYdSIXTYdTENdTHIRTYdTWENTYcOMcSMALL LETTER AeAMeANGeATeBUeDAeEeENN",
   "eENYeGAeHAReHIYOeHOLOeHORReIIeKOeNGAAeNUNGeOeODDePUeSIIeSSUUeTTEeUCeUUeVIYOeWIeYAeYOeYUeYUJ",
   "aWARNING SIGNaWASTEBASKETaWATCHaWATER BUFFALObCLOSETbPOLObWAVEaWATERMELON",
   "aWAVE ARROW POINTING DIRECTLY LEFTeRIGHTbDASHaWAVING BLACK FLAGbHAND SIGNbWHITE FLAGaWAVY DASH",
   "bLINEbLOW LINEbOVERLINEaWAXING CRESCENT MOON SYMBOLbGIBBOUS MOON SYMBOLaWEARY CAT FACEbFACE",
   "aWEDDINGaWEDGE-TAILED RIGHTWARDS ARROWaWEIERSTRASS ELLIPTIC FUNCTIONaWEIGHT LIFTER",
   "aWEST SYRIAC CROSSaWHALEaWHEELbOF DHARMAaWHEELCHAIR SYMBOLaWHITE ARROW SHAFT WIDTH ONE",
   "eTWO THIRDSbBULLETbCHESS BISHOPdROTATED NINETY DEGREESeTWO HUNDRED SEVENTY DEGREEScEQUIHOPPER",
   "dROTATED NINETY DEGREEScKINGdROTATED NINETY DEGREESeTWO HUNDRED SEVENTY DEGREEScKNIGHT",
   "dROTATED FORTY-FIVE DEGREESeNINETY DEGREESeONE HUNDRED THIRTY-FIVE DEGREES",
   "eTHREE HUNDRED FIFTEEN DEGREESeTWO HUNDRED SEVENTY DEGREESgTWENTY-FIVE DEGREEScKNIGHT-BISHOP",
   "cKNIGHT-QUEENcKNIGHT-ROOKcPAWNdROTATED NINETY DEGREESeTWO HUNDRED SEVENTY DEGREEScQUEEN",
   "dROTATED NINETY DEGREESeTWO HUNDRED SEVENTY DEGREEScROOKdROTATED NINETY DEGREES",
   "eTWO HUNDRED SEVENTY DEGREEScTURNED BISHOPdKINGdKNIGHTdPAWNdQUEENdROOKbCIRCLE",
   "cCONTAINING BLACK SMALL CIRCLEcWITH DOT RIGHTdDOWN ARROWdLOWER LEFT QUADRANTeRIGHT QUADRANT",
   "dTWO DOTSdUPPER LEFT QUADRANTeRIGHT QUADRANTbCLUB SUITbCONCAVE-SIDED DIAMOND",
   "dWITH LEFTWARDS TICKeRIGHTWARDS TICKbDIAMONDcCONTAINING BLACK MEDIUM DIAMONDeSMALL DIAMOND",
   "eVERY SMALL DIAMONDcIN SQUAREcSUITcWITH CENTRED DOTbDOWN POINTING BACKHAND INDEXdINDEX",
   "dLEFT HAND INDEXbDOWN-POINTING SMALL TRIANGLEcTRIANGLEbDRAUGHTS KINGcMAN",
   "bEXCLAMATION MARK ORNAMENTbFLAGcWITH HORIZONTAL MIDDLE BLACK STRIPEbFLORETTEbFLOWER",
   "bFOUR POINTED CUSPdSTARbFROWNING FACEbHARD SHELL FLOPPY DISKbHEARTcSUITbHEAVY CHECK MARK",
   "cSALTIRE WITH ROUNDED CORNERSbHEXAGONbHORIZONTAL ELLIPSEbHOURGLASSbLARGE SQUAREbLATIN CROSS",
   "bLEFT LANE MERGEcPOINTING BACKHAND INDEXdINDEXbLEFT-POINTING POINTERcSMALL TRIANGLEcTRIANGLE",
   "bLOZENGE CONTAINING BLACK SMALL LOZENGEbMEDIUM DIAMONDcLOZENGEcSMALL SQUAREcSQUAREcSTAR",
   "bMOON SELENAbNIBbPARALLELOGRAMbPENNANTbPENTAGONbQUESTION MARK ORNAMENTbRECTANGLE",
   "bRIGHT POINTING BACKHAND INDEXdINDEXbRIGHT-POINTING PENTAGONcPOINTERcSMALL TRIANGLEcTRIANGLE",
   "bSCISSORSbSESAME DOTbSHOGI PIECEbSMALL LOZENGEcSQUAREcSTARbSMILING FACEbSPADE SUITbSQUARE",
   "cBUTTONcCONTAINING BLACK MEDIUM SQUAREeSMALL SQUAREeVERY SMALL SQUARE",
   "cWITH CENTRE VERTICAL LINEdLEFTWARDS TICKdLOWER LEFT QUADRANTeRIGHT QUADRANTdRIGHTWARDS TICK",
   "dROUNDED CORNERSdUPPER LEFT QUADRANTeRIGHT QUADRANTdVERTICAL BISECTING LINEbSTARbSUN",
   "cBEHIND CLOUDeWITH RAINcWITH RAYSdSMALL CLOUDbTELEPHONEbTOUCHTONE TELEPHONEbTRAPEZIUM",
   "bTRIANGLE CONTAINING SMALL WHITE TRIANGLEbTWO-WAY LEFT WAY TRAFFICbUP POINTING BACKHAND INDEX",
   "dINDEXbUP-POINTING CHEVRONcSMALL TRIANGLEcTRIANGLEdWITH DOTbVERTICAL BARcELLIPSEcRECTANGLE",
   "bVERY SMALL SQUAREaWHITE-FEATHERED RIGHTWARDS ARROWaWIDE-HEADED DOWNWARDS BARB ARROW",
   "cHEAVY BARB ARROWcLIGHT BARB ARROWcMEDIUM BARB ARROWcVERY HEAVY BARB ARROW",
   "bLEFTWARDS BARB ARROWcHEAVY BARB ARROWcLIGHT BARB ARROWcMEDIUM BARB ARROW",
   "cVERY HEAVY BARB ARROWbNORTH EAST BARB ARROWdHEAVY BARB ARROWdLIGHT BARB ARROW",
   "dMEDIUM BARB ARROWdVERY HEAVY BARB ARROWcWEST BARB ARROWdHEAVY BARB ARROWdLIGHT BARB ARROW",
   "dMEDIUM BARB ARROWdVERY HEAVY BARB ARROWbRIGHTWARDS BARB ARROWcHEAVY BARB ARROW",
   "cLIGHT BARB ARROWcMEDIUM BARB ARROWcVERY HEAVY BARB ARROWbSOUTH EAST BARB ARROW",
   "dHEAVY BARB ARROWdLIGHT BARB ARROWdMEDIUM BARB ARROWdVERY HEAVY BARB ARROWcWEST BARB ARROW",
   "dHEAVY BARB ARROWdLIGHT BARB ARROWdMEDIUM BARB ARROWdVERY HEAVY BARB ARROWbUPWARDS BARB ARROW",
   "cHEAVY BARB ARROWcLIGHT BARB ARROWcMEDIUM BARB ARROWcVERY HEAVY BARB ARROW",
   "aWIGGLY VERTICAL LINEaWILTED FLOWERaWIND BLOWING FACEbCHIMEaWINDOWaWINE GLASSaWINKING FACE",
   "aWIRED KEYBOARDaWJaWOLF FACEaWOMANbWITH BUNNY EARSaWOMANS BOOTSbCLOTHESbHATbSANDAL",
   "aWOMENS SYMBOLaWON SIGNaWOODaWORD JOINERbSEPARATOR MIDDLE DOTaWORLD MAPaWORMaWORRIED FACE",
   "aWRAPPED PRESENTaWREATH PRODUCTaWRENCHaWRESTLERSaWRITING HANDaX IN A RECTANGLE BOXaX-RAY",
   "aXIANGQI BLACK CANNONcCHARIOTcELEPHANTcGENERALcHORSEcMANDARINcSOLDIERbRED CANNONcCHARIOT",
   "cELEPHANTcGENERALcHORSEcMANDARINcSOLDIERaXORaYAWNING FACEaYELLOW HEARTaYEN SIGN",
   "aYEZIDI COMBINING HAMZA MARKcMADDA MARKbHYPHENATION MARKbLETTER BEcCHHIMcCHIMcCIMcDADcDALcELIF",
   "cETcEWcEYNcFAcGAFcHAYcHHAcJAcKAFcKHAFcLAMdWITH DOT ABOVEcMIMcNUNcOWcPEcPHEcQAFcRAcRHAcSADcSE",
   "cSHINcSINcTAcTHEcUMcVAdALTERNATE FORMcWAWcXAcXHEYNcYOTdWITH CIRCUMFLEX ABOVEcZAcZALcZE",
   "aYI RADICAL BBUTcBURcCHEcCIPcCUOPcCYcCYPcCYTcDDURcDUcGAcGEPcGGOPcGGUOcGOTcHMOcHXITcHXOPcHXUO",
   "cJJIEcJJUTcJJYcJOcKEcKITcLIcLIEcLYRcMIcMOPcNBIEcNYIPcNYOPcNZUPcOPcPUTcPYTcQOTcSHATcSHOPcSHUR",
   "cSHYcSSIcTATcTUcVEPcVURcWOcYITcYOcZAcZOTcZUPcZURcZZIETbSYLLABLE AcAPcATcAXcBAcBAPcBATcBAXcBBA",
   "cBBAPcBBATcBBAXcBBEcBBEPcBBEXcBBIcBBIEcBBIEPcBBIETcBBIEXcBBIPcBBITcBBIXcBBOcBBOPcBBOTcBBOXcBBU",
   "cBBUOcBBUOPcBBUOXcBBUPcBBURcBBURXcBBUTcBBUXcBBYcBBYPcBBYTcBBYXcBEcBEPcBEXcBIcBIEcBIEPcBIET",
   "cBIEXcBIPcBITcBIXcBOcBOPcBOTcBOXcBUcBUOcBUOPcBUOXcBUPcBURcBURXcBUTcBUXcBYcBYPcBYRcBYRXcBYTcBYX",
   "cCAcCAPcCATcCAXcCEcCEPcCEXcCHAcCHAPcCHATcCHAXcCHEcCHEPcCHETcCHEXcCHOcCHOPcCHOTcCHOXcCHUcCHUO",
   "cCHUOPcCHUOTcCHUOXcCHUPcCHURcCHURXcCHUXcCHYcCHYPcCHYRcCHYRXcCHYTcCHYXcCIcCIEcCIEPcCIETcCIEX",
   "cCIPcCITcCIXcCOcCOPcCOTcCOXcCUcCUOcCUOPcCUOXcCUPcCURcCURXcCUTcCUXcCYcCYPcCYRcCYRXcCYTcCYXcDA",
   "cDAPcDATcDAXcDDAcDDAPcDDATcDDAXcDDEcDDEPcDDEXcDDIcDDIEcDDIEPcDDIEXcDDIPcDDITcDDIXcDDOcDDOP",
   "cDDOTcDDOXcDDUcDDUOcDDUOPcDDUOXcDDUPcDDURcDDURXcDDUTcDDUXcDEcDEPcDEXcDIcDIEcDIEPcDIEXcDIPcDIT",
   "cDIXcDOcDOPcDOTcDOXcDUcDUOcDUOXcDUPcDURcDURXcDUTcDUXcEcEXcFAcFAPcFATcFAXcFIcFIPcFITcFIXcFOcFOP",
   "cFOXcFUcFUPcFURcFURXcFUTcFUXcFYcFYPcFYTcFYXcGAcGAPcGATcGAXcGEcGEPcGETcGEXcGGAcGGAPcGGATcGGAX",
   "cGGEcGGEPcGGETcGGEXcGGIcGGIEcGGIEPcGGIEXcGGITcGGIXcGGOcGGOPcGGOTcGGOXcGGUcGGUOcGGUOPcGGUOT",
   "cGGUOXcGGUPcGGURcGGURXcGGUTcGGUXcGIcGIEcGIEPcGIETcGIEXcGIPcGITcGIXcGOcGOPcGOTcGOXcGUcGUOcGUOP",
   "cGUOTcGUOXcGUPcGURcGURXcGUTcGUXcHAcHAPcHATcHAXcHEcHEPcHEXcHIEcHIEXcHITcHLAcHLAPcHLATcHLAXcHLE",
   "cHLEPcHLEXcHLIcHLIEcHLIEPcHLIEXcHLIPcHLITcHLIXcHLOcHLOPcHLOXcHLUcHLUOcHLUOPcHLUOXcHLUPcHLUR",
   "cHLURXcHLUTcHLUXcHLYcHLYPcHLYRcHLYRXcHLYTcHLYXcHMAcHMAPcHMATcHMAXcHMIcHMIEcHMIEPcHMIEXcHMIP",
   "cHMITcHMIXcHMOcHMOPcHMOTcHMOXcHMUcHMUOcHMUOPcHMUOXcHMUPcHMURcHMURXcHMUTcHMUXcHMYcHMYPcHMYR",
   "cHMYRXcHMYXcHNAcHNAPcHNATcHNAXcHNEcHNEPcHNEXcHNIcHNIEcHNIEPcHNIETcHNIEXcHNIPcHNITcHNIXcHNOP",
   "cHNOTcHNOXcHNUOcHNUOXcHNUTcHOcHOPcHOTcHOXcHUOcHUOPcHUOTcHUOXcHXAcHXAPcHXATcHXAXcHXEcHXEPcHXEX",
   "cHXIcHXIEcHXIEPcHXIETcHXIEXcHXIPcHXITcHXIXcHXOcHXOPcHXOTcHXOXcHXUOcHXUOPcHXUOTcHXUOXcIcIEcIEP",
   "cIETcIEXcIPcITcITERATION MARKcIXcJIcJIEcJIEPcJIETcJIEXcJIPcJITcJIXcJJIcJJIEcJJIEPcJJIETcJJIEX",
   "cJJIPcJJITcJJIXcJJOcJJOPcJJOTcJJOXcJJUcJJUOcJJUOPcJJUOXcJJUPcJJURcJJURXcJJUTcJJUXcJJYcJJYP",
   "cJJYTcJJYXcJOcJOPcJOTcJOXcJUcJUOcJUOPcJUOTcJUOXcJUPcJURcJURXcJUTcJUXcJYcJYPcJYRcJYRXcJYTcJYX",
   "cKAcKAPcKATcKAXcKEcKEPcKETcKEXcKIcKIEcKIEPcKIEXcKIPcKITcKIXcKOcKOPcKOTcKOXcKUcKUOcKUOPcKUOX",
   "cKUPcKURcKURXcKUTcKUXcLAcLAPcLATcLAXcLEcLEPcLEXcLIcLIEcLIEPcLIETcLIEXcLIPcLITcLIXcLOcLOPcLOT",
   "cLOXcLUcLUOcLUOPcLUOTcLUOXcLUPcLURcLURXcLUTcLUXcLYcLYPcLYRcLYRXcLYTcLYXcMAcMAPcMATcMAXcMEcMEX",
   "cMGAcMGAPcMGATcMGAXcMGEcMGEPcMGEXcMGIEcMGIEXcMGOcMGOPcMGOTcMGOXcMGUcMGUOcMGUOPcMGUOXcMGUPcMGUR",
   "cMGURXcMGUTcMGUXcMIcMIEcMIEPcMIEXcMIPcMITcMIXcMOcMOPcMOTcMOXcMUcMUOcMUOPcMUOTcMUOXcMUPcMUR",
   "cMURXcMUTcMUXcMYcMYPcMYTcMYXcNAcNAPcNAXcNBAcNBAPcNBATcNBAXcNBIcNBIEcNBIEPcNBIEXcNBIPcNBITcNBIX",
   "cNBOcNBOPcNBOTcNBOXcNBUcNBUPcNBURcNBURXcNBUTcNBUXcNBYcNBYPcNBYRcNBYRXcNBYTcNBYXcNDAcNDAPcNDAT",
   "cNDAXcNDEcNDEPcNDEXcNDIcNDIEcNDIEXcNDIPcNDITcNDIXcNDOcNDOPcNDOTcNDOXcNDUcNDUPcNDURcNDURXcNDUT",
   "cNDUXcNEcNEPcNEXcNGAcNGAPcNGATcNGAXcNGEcNGEPcNGEXcNGIEcNGIEPcNGIEXcNGOcNGOPcNGOTcNGOXcNGUO",
   "cNGUOTcNGUOXcNIcNIEcNIEPcNIEXcNIPcNITcNIXcNJIcNJIEcNJIEPcNJIETcNJIEXcNJIPcNJITcNJIXcNJOcNJOP",
   "cNJOTcNJOXcNJUcNJUOcNJUOXcNJUPcNJURcNJURXcNJUXcNJYcNJYPcNJYRcNJYRXcNJYTcNJYXcNOcNOPcNOTcNOX",
   "cNRAcNRAPcNRATcNRAXcNREcNREPcNRETcNREXcNROcNROPcNROXcNRUcNRUPcNRURcNRURXcNRUTcNRUXcNRYcNRYP",
   "cNRYRcNRYRXcNRYTcNRYXcNUcNUOcNUOPcNUOXcNUPcNURcNURXcNUTcNUXcNYIcNYIEcNYIEPcNYIETcNYIEXcNYIP",
   "cNYITcNYIXcNYOcNYOPcNYOTcNYOXcNYUcNYUOcNYUOPcNYUOXcNYUPcNYUTcNYUXcNZAcNZAPcNZATcNZAXcNZEcNZEX",
   "cNZIcNZIEcNZIEPcNZIEXcNZIPcNZITcNZIXcNZOPcNZOXcNZUcNZUOcNZUOXcNZUPcNZURcNZURXcNZUXcNZYcNZYP",
   "cNZYRcNZYRXcNZYTcNZYXcOcOPcOTcOXcPAcPAPcPATcPAXcPIcPIEcPIEPcPIEXcPIPcPITcPIXcPOcPOPcPOTcPOXcPU",
   "cPUOcPUOPcPUOXcPUPcPURcPURXcPUTcPUXcPYcPYPcPYRcPYRXcPYTcPYXcQIcQIEcQIEPcQIETcQIEXcQIPcQITcQIX",
   "cQOcQOPcQOTcQOXcQUcQUOcQUOPcQUOTcQUOXcQUPcQURcQURXcQUTcQUXcQYcQYPcQYRcQYRXcQYTcQYXcRAcRAPcRAT",
   "cRAXcREcREPcREXcROcROPcROTcROXcRRAcRRAXcRREcRREPcRRETcRREXcRROcRROPcRROTcRROXcRRUcRRUOcRRUOX",
   "cRRUPcRRURcRRURXcRRUTcRRUXcRRYcRRYPcRRYRcRRYRXcRRYTcRRYXcRUcRUOcRUOPcRUOXcRUPcRURcRURXcRUTcRUX",
   "cRYcRYPcRYRcRYRXcRYTcRYXcSAcSAPcSATcSAXcSEcSEPcSEXcSHAcSHAPcSHATcSHAXcSHEcSHEPcSHETcSHEXcSHO",
   "cSHOPcSHOTcSHOXcSHUcSHUOcSHUOPcSHUOXcSHUPcSHURcSHURXcSHUTcSHUXcSHYcSHYPcSHYRcSHYRXcSHYTcSHYX",
   "cSIcSIEcSIEPcSIEXcSIPcSITcSIXcSOcSOPcSOTcSOXcSSAcSSAPcSSATcSSAXcSSEcSSEPcSSEXcSSIcSSIEcSSIEP",
   "cSSIEXcSSIPcSSITcSSIXcSSOcSSOPcSSOTcSSOXcSSUcSSUPcSSUTcSSUXcSSYcSSYPcSSYRcSSYRXcSSYTcSSYXcSU",
   "cSUOcSUOPcSUOXcSUPcSURcSURXcSUTcSUXcSYcSYPcSYRcSYRXcSYTcSYXcTAcTAPcTATcTAXcTEcTEPcTEXcTIcTIE",
   "cTIEPcTIEXcTIPcTITcTIXcTOcTOPcTOTcTOXcTUcTUOcTUOPcTUOTcTUOXcTUPcTURcTURXcTUTcTUXcUOcUOPcUOXcVA",
   "cVAPcVATcVAXcVEPcVEXcVIcVIEcVIEPcVIETcVIEXcVIPcVITcVIXcVOcVOPcVOTcVOXcVUcVUPcVURcVURXcVUTcVUX",
   "cVYcVYPcVYRcVYRXcVYTcVYXcWAcWAPcWATcWAXcWEcWEPcWEXcWOcWOPcWOXcWUcWUOcWUOPcWUOXcXIcXIEcXIEP",
   "cXIETcXIEXcXIPcXITcXIXcXOcXOPcXOTcXOXcXUOcXUOXcXYcXYPcXYRcXYRXcXYTcXYXcYIcYIEcYIEPcYIETcYIEX",
   "cYIPcYITcYIXcYOcYOPcYOTcYOXcYUcYUOcYUOPcYUOTcYUOXcYUPcYURcYURXcYUTcYUXcYYcYYPcYYRcYYRXcYYTcYYX",
   "cZAcZAPcZATcZAXcZEcZEPcZEXcZHAcZHAPcZHATcZHAXcZHEcZHEPcZHETcZHEXcZHOcZHOPcZHOTcZHOXcZHUcZHUO",
   "cZHUOPcZHUOXcZHUPcZHURcZHURXcZHUTcZHUXcZHYcZHYPcZHYRcZHYRXcZHYTcZHYXcZIcZIEcZIEPcZIEXcZIPcZIT",
   "cZIXcZOcZOPcZOTcZOXcZUcZUOcZUOPcZUOXcZUPcZURcZURXcZUTcZUXcZYcZYPcZYRcZYRXcZYTcZYXcZZAcZZAP",
   "cZZATcZZAXcZZEcZZEPcZZEXcZZIcZZIEcZZIEPcZZIETcZZIEXcZZIPcZZITcZZIXcZZOcZZOPcZZOXcZZUcZZUPcZZUR",
   "cZZURXcZZUXcZZYcZZYPcZZYRcZZYRXcZZYTcZZYXaYIN YANGaYO-YOaZ NOTATION BAG MEMBERSHIP",
   "cDOMAIN ANTIRESTRICTIONcLEFT BINDING BRACKETdIMAGE BRACKETcRANGE ANTIRESTRICTION",
   "cRELATIONAL COMPOSITIONcRIGHT BINDING BRACKETdIMAGE BRACKETcSCHEMA COMPOSITIONdPIPING",
   "dPROJECTIONcSPOTcTYPE COLONaZANABAZAR SQUARE CLOSING DOUBLE-LINED HEAD MARKdHEAD MARK",
   "cCLUSTER-FINAL LETTER LAeRAeVAeYAcCLUSTER-INITIAL LETTER RAcFINAL CONSONANT MARK",
   "cINITIAL DOUBLE-LINED HEAD MARKdHEAD MARKcLETTER -AdAdBAdBHAdCAdCHAdDAdDDAdDDHAdDHAdDZAdDZHA",
   "dGAdGHAdHAdJAdKAdKHAdKSSAdLAdMAdNAdNGAdNNAdNYAdPAdPHAdRAdSAdSHAdSSAdTAdTHAdTSAdTSHAdTTAdTTHA",
   "dVAdYAdZAdZHAcMARK DOUBLE SHADdLONG TSHEGdSHADdTSHEGcSIGN ANUSVARAdCANDRA WITH ORNAMENT",
   "dCANDRABINDUeWITH ORNAMENTdVIRAMAdVISARGAcSUBJOINERcVOWEL LENGTH MARKdSIGN AIeAUeEeIeOeOE",
   "eREVERSED IeUeUEaZEBRA FACEaZERO WIDTH JOINERcNO-BREAK SPACEcNON-JOINERcSPACEaZEUS",
   "aZIPPER-MOUTH FACEaZNAMENNY COMBINING ATTACHING VERTICAL OMETcLOWER TONAL RANGE INDICATOR",
   "cMARK BORZAYAdCHASHKAePOLNAYAdCURVED OMETdDEMESTVENNY ZADERZHKAdDVOETOCHIE",
   "dGORAZDO NIZKO ON LEFTgRIGHTfS KRYZHEM ON LEFTiRIGHTeVYSOKOdKACHKAdKRYZHeON LEFTdKUPNAYAdLOMKA",
   "dMALO POVYSHE ON LEFTgRIGHTfS KHOKHLOM ON LEFTiRIGHTgKRYZHEMfSTRANNOdNIZKO ON LEFTfRIGHT",
   "eS KRYZHEM ON LEFThRIGHTdOBLACHKOdONdOTSECHKAdPODCHASHIEeWITH VERTICAL STROKEdPODVERTKA",
   "dPOVYSHE ON LEFTfRIGHTeS KHOKHLOM ON LEFThRIGHTfKRYZHEMeSTRANNOdRAVNOdRAZSEKAdSKOBA",
   "dSOROCHYA NOZHKAdSREDNE ON LEFTfRIGHTdSTRANNO MALO POVYSHEdTIKHAYAdTOCHKAdTSATA ON LEFTfRIGHT",
   "eS KRYZHEMdUDARKAdVYSOKO ON LEFTfRIGHTeS KHOKHLOM ON LEFThRIGHTfKRYZHEMdZADERZHKAdZELOdZEVOK",
   "cTONAL RANGE MARK MRACHNOfSVETLOfTRESVETLObNEUME CHASHKAcCHELYUSTKAcDEMESTVENNY KLYUCH",
   "cDERBITSAcDOUBLE ZAPYATAYAcDUDAcDVA V CHELNUcFITAcGOLUBCHIK BORZYdMRACHNYdSVETLYdTIKHY",
   "dTRESVETLYcKHAMILOcKLYUCHcKOBYLAcKRYUKdTIKHYcKRYZHcKUFISMAcMECHIKdKLYUCHENEPOSTOYANNY",
   "dKLYUCHEPOVODNYdKLYUCHEVOYdPOVODNYcNEMKAcOBLAKOcOSOKAdKLYUCHEVAYA NEPOSTOYANNAYAeSVETLAYA",
   "dKRYUKOVAYA SVETLAYAdSVETLAYAdTRESVETLAYAcPALKAcPARAKLITcPAUKcPEREVODKAdNEPOSTOYANNAYA",
   "cPODCHASHIEcPOLKULIZMYcREVERSED CHELYUSTKAcROGcSKAMEYTSA DVOECHELNAYA KLYUCHEVAYA",
   "eNEPOSTOYANNAYAePROSTAYAeSVETLAYAdKLYUCHENEPOSTOYANNAYAdKLYUCHEVAYA SVETLAYAeTIKHAYAdMRACHNAYA",
   "dSVETLAYAdTIKHAYAdTRESVETLAYAcSLOZHITIEdS KRYZHEMeZAPYATOYdZAKRYTOEcSTATYAdNEPOSTOYANNAYA",
   "dS DVUMYA ZAPYATYMIeKRYZHEMfI ZAPYATOYeROGOMeZAPYATOYfI KRYZHEMgPODCHASHIEMdZAKRYTAYA",
   "eS ZAPYATOYcSTOPITSAdS OCHKOMdWITH SOROCHYA NOZHKAcSTRELA DVOECHELNAYAeKLYUCHEVAYA",
   "dDVOECHELNOKRYZHEVAYAdDVOECHELNOPOVODNAYAeKLYUCHEVAYAdGROMNAYAeWITH SINGLE ZAPYATAYA",
   "dGROMOKRYZHEVAYAePOVODNAYAdGROMOPOVODNAYAeWITH DOUBLE ZAPYATAYAfSINGLE ZAPYATAYA",
   "dKLYUCHENEPOSTOYANNAYAdKLYUCHEPOVODNAYAdKRYUKOVAYAeGROMNAYAfWITH SINGLE ZAPYATAYA",
   "eGROMOKRYZHEVAYAfPOVODNAYAeGROMOPOVODNAYAfWITH DOUBLE ZAPYATAYAgSINGLE ZAPYATAYAePOVODNAYA",
   "eTRYASKAdKRYZHEVAYAdMRACHNOTIKHAYAdNEPOSTOYANNAYAdPOLUPOVODNAYAdPOVODNAYAdPROSTAYA",
   "dTIKHAYA PUTNAYAdTRYASOGLASNAYAdTRYASOPOVODNAYAdTRYASOSTRELNAYAcVRAKHIYA KLYUCHEVAYA MRACHNAYA",
   "ePROSTAYAeSVETLAYAeTRESVETLAYAdMRACHNAYAdPROSTAYAdSVETLAYAdTRESVETLAYAcZANOZHEKcZAPYATAYA",
   "cZMEYTSAbPRIZNAK MODIFIER DIRECTION FLIPdKRYZHdLEVEL-2dLEVEL-3dROGaZOMBIEaZWJaZWNBSPaZWNJaZWSP"]

end FragmentImports.CharacterName
