namespace NullContract.CharName

def signsNames : String :=
    ":2000aEN_QUADaEM_QUADaEN_SPACEaEM_SPACEaTHREE-PER-EM_SPACEaFOUR-PER-EM_SPACEaSIX-PER-EM_SPACEaFIGURE_SPACE
    aPUNCTUATION_SPACEaTHIN_SPACEaHAIR_SPACEaZERO_WIDTH_SPACEcNON-JOINERcJOINERaLEFT-TO-RIGHT_MARK
    aRIGHT-TO-LEFT_MARKaHYPHENaNON-BREAKING_HYPHENaFIGURE_DASHaEN_DASHaEM_DASHaHORIZONTAL_BARaDOUBLE_VERTICAL_LINE
    bLOW_LINEaLEFT_SINGLE_QUOTATION_MARKaRIGHT_SINGLE_QUOTATION_MARKaSINGLE_LOW-9_QUOTATION_MARK
    bHIGH-REVERSED-9_QUOTATION_MARKaLEFT_DOUBLE_QUOTATION_MARKaRIGHT_DOUBLE_QUOTATION_MARK
    aDOUBLE_LOW-9_QUOTATION_MARKbHIGH-REVERSED-9_QUOTATION_MARKaDAGGERaDOUBLE_DAGGERaBULLETaTRIANGULAR_BULLET
    aONE_DOT_LEADERaTWO_DOT_LEADERaHORIZONTAL_ELLIPSISaHYPHENATION_POINTaLINE_SEPARATORaPARAGRAPH_SEPARATOR
    aLEFT-TO-RIGHT_EMBEDDINGaRIGHT-TO-LEFT_EMBEDDINGaPOP_DIRECTIONAL_FORMATTINGaLEFT-TO-RIGHT_OVERRIDE
    aRIGHT-TO-LEFT_OVERRIDEaNARROW_NO-BREAK_SPACEaPER_MILLE_SIGNbTEN_THOUSAND_SIGNaPRIMEaDOUBLE_PRIMEaTRIPLE_PRIME
    aREVERSED_PRIMEbDOUBLE_PRIMEbTRIPLE_PRIMEaCARETaSINGLE_LEFT-POINTING_ANGLE_QUOTATION_MARK
    bRIGHT-POINTING_ANGLE_QUOTATION_MARKaREFERENCE_MARKaDOUBLE_EXCLAMATION_MARKaINTERROBANGaOVERLINEaUNDERTIE
    aCHARACTER_TIEaCARET_INSERTION_POINTaASTERISMaHYPHEN_BULLETaFRACTION_SLASHaLEFT_SQUARE_BRACKET_WITH_QUILL
    aRIGHT_SQUARE_BRACKET_WITH_QUILLaDOUBLE_QUESTION_MARKaQUESTION_EXCLAMATION_MARKaEXCLAMATION_QUESTION_MARK
    aTIRONIAN_SIGN_ETaREVERSED_PILCROW_SIGNaBLACK_LEFTWARDS_BULLETbRIGHTWARDS_BULLETaLOW_ASTERISKaREVERSED_SEMICOLON
    aCLOSE_UPaTWO_ASTERISKS_ALIGNED_VERTICALLYaCOMMERCIAL_MINUS_SIGNaSWUNG_DASHaINVERTED_UNDERTIE
    aFLOWER_PUNCTUATION_MARKaTHREE_DOT_PUNCTUATIONaQUADRUPLE_PRIMEaFOUR_DOT_PUNCTUATIONaFIVE_DOT_PUNCTUATION
    aTWO_DOT_PUNCTUATIONaFOUR_DOT_MARKaDOTTED_CROSSaTRICOLONaVERTICAL_FOUR_DOTSaMEDIUM_MATHEMATICAL_SPACE
    aWORD_JOINERaFUNCTION_APPLICATIONaINVISIBLE_TIMESbSEPARATORbPLUS:2066aLEFT-TO-RIGHT_ISOLATE
    aRIGHT-TO-LEFT_ISOLATEaFIRST_STRONG_ISOLATEaPOP_DIRECTIONAL_ISOLATEaINHIBIT_SYMMETRIC_SWAPPING
    aACTIVATE_SYMMETRIC_SWAPPINGaINHIBIT_ARABIC_FORM_SHAPINGaACTIVATE_ARABIC_FORM_SHAPINGaNATIONAL_DIGIT_SHAPES
    aNOMINAL_DIGIT_SHAPESaSUPERSCRIPT_ZERObLATIN_SMALL_LETTER_I:2074bFOURbFIVEbSIXbSEVENbEIGHTbNINEbPLUS_SIGNbMINUS
    bEQUALS_SIGNbLEFT_PARENTHESISbRIGHT_PARENTHESISbLATIN_SMALL_LETTER_NaSUBSCRIPT_ZERObONEbTWObTHREEbFOURbFIVEbSIX
    bSEVENbEIGHTbNINEbPLUS_SIGNbMINUSbEQUALS_SIGNbLEFT_PARENTHESISbRIGHT_PARENTHESIS
    :2090aLATIN_SUBSCRIPT_SMALL_LETTER_AeEeOeXeSCHWAeHeKeLeMeNePeSeT:20A0aEURO-CURRENCY_SIGNaCOLON_SIGN
    aCRUZEIRO_SIGNaFRENCH_FRANC_SIGNaLIRA_SIGNaMILL_SIGNaNAIRA_SIGNaPESETA_SIGNaRUPEE_SIGNaWON_SIGNaNEW_SHEQEL_SIGN
    aDONG_SIGNaEURO_SIGNaKIP_SIGNaTUGRIK_SIGNaDRACHMA_SIGNaGERMAN_PENNY_SIGNaPESO_SIGNaGUARANI_SIGNaAUSTRAL_SIGN
    aHRYVNIA_SIGNaCEDI_SIGNaLIVRE_TOURNOIS_SIGNaSPESMILO_SIGNaTENGE_SIGNaINDIAN_RUPEE_SIGNaTURKISH_LIRA_SIGN
    aNORDIC_MARK_SIGNaMANAT_SIGNaRUBLE_SIGNaLARI_SIGNaBITCOIN_SIGNaSOM_SIGN:20D0aCOMBINING_LEFT_HARPOON_ABOVE
    bRIGHT_HARPOON_ABOVEbLONG_VERTICAL_LINE_OVERLAYbSHORT_VERTICAL_LINE_OVERLAYbANTICLOCKWISE_ARROW_ABOVE
    bCLOCKWISE_ARROW_ABOVEbLEFT_ARROW_ABOVEbRIGHT_ARROW_ABOVEbRING_OVERLAYbCLOCKWISE_RING_OVERLAY
    bANTICLOCKWISE_RING_OVERLAYbTHREE_DOTS_ABOVEbFOUR_DOTS_ABOVEbENCLOSING_CIRCLEcSQUAREcDIAMONDcCIRCLE_BACKSLASH
    bLEFT_RIGHT_ARROW_ABOVEbENCLOSING_SCREENcKEYCAPcUPWARD_POINTING_TRIANGLEbREVERSE_SOLIDUS_OVERLAY
    bDOUBLE_VERTICAL_STROKE_OVERLAYbANNUITY_SYMBOLbTRIPLE_UNDERDOTbWIDE_BRIDGE_ABOVEbLEFTWARDS_ARROW_OVERLAY
    bLONG_DOUBLE_SOLIDUS_OVERLAYbRIGHTWARDS_HARPOON_WITH_BARB_DOWNWARDSbLEFTWARDS_HARPOON_WITH_BARB_DOWNWARDS
    bLEFT_ARROW_BELOWbRIGHT_ARROW_BELOWbASTERISK_ABOVE:2100aACCOUNT_OFaADDRESSED_TO_THE_SUBJECT
    aDOUBLE-STRUCK_CAPITAL_CaDEGREE_CELSIUSaCENTRE_LINE_SYMBOLaCARE_OFaCADA_UNAaEULER_CONSTANTaSCRUPLE
    aDEGREE_FAHRENHEITaSCRIPT_SMALL_GbCAPITAL_HaBLACK-LETTER_CAPITAL_HaDOUBLE-STRUCK_CAPITAL_HaPLANCK_CONSTANT
    cOVER_TWO_PIaSCRIPT_CAPITAL_IaBLACK-LETTER_CAPITAL_IaSCRIPT_CAPITAL_LbSMALL_LaL_B_BAR_SYMBOL
    aDOUBLE-STRUCK_CAPITAL_NaNUMERO_SIGNaSOUND_RECORDING_COPYRIGHTaSCRIPT_CAPITAL_PaDOUBLE-STRUCK_CAPITAL_PcQ
    aSCRIPT_CAPITAL_RaBLACK-LETTER_CAPITAL_RaDOUBLE-STRUCK_CAPITAL_RaPRESCRIPTION_TAKEaRESPONSEaSERVICE_MARK
    aTELEPHONE_SIGNaTRADE_MARK_SIGNaVERSICLEaDOUBLE-STRUCK_CAPITAL_ZaOUNCE_SIGNaOHM_SIGNaINVERTED_OHM_SIGN
    aBLACK-LETTER_CAPITAL_ZaTURNED_GREEK_SMALL_LETTER_IOTAaKELVIN_SIGNaANGSTROM_SIGNaSCRIPT_CAPITAL_B
    aBLACK-LETTER_CAPITAL_CaESTIMATED_SYMBOLaSCRIPT_SMALL_EbCAPITAL_EcFaTURNED_CAPITAL_FaSCRIPT_CAPITAL_MbSMALL_O
    aALEF_SYMBOLaBET_SYMBOLaGIMEL_SYMBOLaDALET_SYMBOLaINFORMATION_SOURCEaROTATED_CAPITAL_QaFACSIMILE_SIGN
    aDOUBLE-STRUCK_SMALL_PIcGAMMAbCAPITAL_GAMMAcPIbN-ARY_SUMMATIONaTURNED_SANS-SERIF_CAPITAL_GdL
    aREVERSED_SANS-SERIF_CAPITAL_LaTURNED_SANS-SERIF_CAPITAL_YaDOUBLE-STRUCK_ITALIC_CAPITAL_DcSMALL_DdEdIdJ
    aPROPERTY_LINEaTURNED_AMPERSANDaPER_SIGNaAKTIESELSKABaTURNED_SMALL_FaSYMBOL_FOR_SAMARITAN_SOURCE
    aVULGAR_FRACTION_ONE_SEVENTHdNINTHdTENTHdTHIRDcTWO_THIRDScONE_FIFTHcTWO_FIFTHScTHREE_FIFTHScFOUR_FIFTHS
    cONE_SIXTHcFIVE_SIXTHScONE_EIGHTHcTHREE_EIGHTHScFIVE_EIGHTHScSEVEN_EIGHTHSaFRACTION_NUMERATOR_ONE
    aROMAN_NUMERAL_ONEcTWOcTHREEcFOURcFIVEcSIXcSEVENcEIGHTcNINEcTENcELEVENcTWELVEcFIFTYcONE_HUNDREDcFIVE_HUNDRED
    cONE_THOUSANDaSMALL_ROMAN_NUMERAL_ONEdTWOdTHREEdFOURdFIVEdSIXdSEVENdEIGHTdNINEdTENdELEVENdTWELVEdFIFTY
    dONE_HUNDREDdFIVE_HUNDREDdONE_THOUSANDaROMAN_NUMERAL_ONE_THOUSAND_C_DcFIVE_THOUSANDcTEN_THOUSAND
    cREVERSED_ONE_HUNDREDaLATIN_SMALL_LETTER_REVERSED_CaROMAN_NUMERAL_SIX_LATE_FORMcFIFTY_EARLY_FORMdTHOUSAND
    cONE_HUNDRED_THOUSANDaVULGAR_FRACTION_ZERO_THIRDSaTURNED_DIGIT_TWOcTHREE:2190aLEFTWARDS_ARROWaUPWARDS_ARROW
    aRIGHTWARDS_ARROWaDOWNWARDS_ARROWaLEFT_RIGHT_ARROWaUP_DOWN_ARROWaNORTH_WEST_ARROWbEAST_ARROWaSOUTH_EAST_ARROW
    bWEST_ARROWaLEFTWARDS_ARROW_WITH_STROKEaRIGHTWARDS_ARROW_WITH_STROKEaLEFTWARDS_WAVE_ARROWaRIGHTWARDS_WAVE_ARROW
    aLEFTWARDS_TWO_HEADED_ARROWaUPWARDS_TWO_HEADED_ARROWaRIGHTWARDS_TWO_HEADED_ARROWaDOWNWARDS_TWO_HEADED_ARROW
    aLEFTWARDS_ARROW_WITH_TAILaRIGHTWARDS_ARROW_WITH_TAILaLEFTWARDS_ARROW_FROM_BARaUPWARDS_ARROW_FROM_BAR
    aRIGHTWARDS_ARROW_FROM_BARaDOWNWARDS_ARROW_FROM_BARaUP_DOWN_ARROW_WITH_BASEaLEFTWARDS_ARROW_WITH_HOOK
    aRIGHTWARDS_ARROW_WITH_HOOKaLEFTWARDS_ARROW_WITH_LOOPaRIGHTWARDS_ARROW_WITH_LOOPaLEFT_RIGHT_WAVE_ARROW
    cARROW_WITH_STROKEaDOWNWARDS_ZIGZAG_ARROWaUPWARDS_ARROW_WITH_TIP_LEFTWARDSeRIGHTWARDS
    aDOWNWARDS_ARROW_WITH_TIP_LEFTWARDSeRIGHTWARDSaRIGHTWARDS_ARROW_WITH_CORNER_DOWNWARDS
    aDOWNWARDS_ARROW_WITH_CORNER_LEFTWARDSaANTICLOCKWISE_TOP_SEMICIRCLE_ARROWaCLOCKWISE_TOP_SEMICIRCLE_ARROW
    aNORTH_WEST_ARROW_TO_LONG_BARaLEFTWARDS_ARROW_TO_BAR_OVER_RIGHTWARDS_ARROW_TO_BAR
    aANTICLOCKWISE_OPEN_CIRCLE_ARROWaCLOCKWISE_OPEN_CIRCLE_ARROWaLEFTWARDS_HARPOON_WITH_BARB_UPWARDSeDOWNWARDS
    aUPWARDS_HARPOON_WITH_BARB_RIGHTWARDSeLEFTWARDSaRIGHTWARDS_HARPOON_WITH_BARB_UPWARDSeDOWNWARDS
    aDOWNWARDS_HARPOON_WITH_BARB_RIGHTWARDSeLEFTWARDSaRIGHTWARDS_ARROW_OVER_LEFTWARDS_ARROW
    aUPWARDS_ARROW_LEFTWARDS_OF_DOWNWARDS_ARROWaLEFTWARDS_ARROW_OVER_RIGHTWARDS_ARROWbPAIRED_ARROWS
    aUPWARDS_PAIRED_ARROWSaRIGHTWARDS_PAIRED_ARROWSaDOWNWARDS_PAIRED_ARROWS
    aLEFTWARDS_HARPOON_OVER_RIGHTWARDS_HARPOONaRIGHTWARDS_HARPOON_OVER_LEFTWARDS_HARPOON
    aLEFTWARDS_DOUBLE_ARROW_WITH_STROKEaLEFT_RIGHT_DOUBLE_ARROW_WITH_STROKEaRIGHTWARDS_DOUBLE_ARROW_WITH_STROKE
    aLEFTWARDS_DOUBLE_ARROWaUPWARDS_DOUBLE_ARROWaRIGHTWARDS_DOUBLE_ARROWaDOWNWARDS_DOUBLE_ARROW
    aLEFT_RIGHT_DOUBLE_ARROWaUP_DOWN_DOUBLE_ARROWaNORTH_WEST_DOUBLE_ARROWbEAST_DOUBLE_ARROWaSOUTH_EAST_DOUBLE_ARROW
    bWEST_DOUBLE_ARROWaLEFTWARDS_TRIPLE_ARROWaRIGHTWARDS_TRIPLE_ARROWaLEFTWARDS_SQUIGGLE_ARROW
    aRIGHTWARDS_SQUIGGLE_ARROWaUPWARDS_ARROW_WITH_DOUBLE_STROKEaDOWNWARDS_ARROW_WITH_DOUBLE_STROKE
    aLEFTWARDS_DASHED_ARROWaUPWARDS_DASHED_ARROWaRIGHTWARDS_DASHED_ARROWaDOWNWARDS_DASHED_ARROW
    aLEFTWARDS_ARROW_TO_BARaRIGHTWARDS_ARROW_TO_BARaLEFTWARDS_WHITE_ARROWaUPWARDS_WHITE_ARROWaRIGHTWARDS_WHITE_ARROW
    aDOWNWARDS_WHITE_ARROWaUPWARDS_WHITE_ARROW_FROM_BARdON_PEDESTALfWITH_HORIZONTAL_BARgVERTICAL_BARcDOUBLE_ARROW
    eON_PEDESTALaRIGHTWARDS_WHITE_ARROW_FROM_WALLaNORTH_WEST_ARROW_TO_CORNERaSOUTH_EAST_ARROW_TO_CORNER
    aUP_DOWN_WHITE_ARROWaRIGHT_ARROW_WITH_SMALL_CIRCLEaDOWNWARDS_ARROW_LEFTWARDS_OF_UPWARDS_ARROW
    aTHREE_RIGHTWARDS_ARROWSaLEFTWARDS_ARROW_WITH_VERTICAL_STROKEaRIGHTWARDS_ARROW_WITH_VERTICAL_STROKE
    aLEFT_RIGHT_ARROW_WITH_VERTICAL_STROKEaLEFTWARDS_ARROW_WITH_DOUBLE_VERTICAL_STROKE
    aRIGHTWARDS_ARROW_WITH_DOUBLE_VERTICAL_STROKEaLEFT_RIGHT_ARROW_WITH_DOUBLE_VERTICAL_STROKE
    aLEFTWARDS_OPEN-HEADED_ARROWaRIGHTWARDS_OPEN-HEADED_ARROWaLEFT_RIGHT_OPEN-HEADED_ARROWaFOR_ALLaCOMPLEMENT
    aPARTIAL_DIFFERENTIALaTHERE_EXISTSbDOES_NOT_EXISTaEMPTY_SETaINCREMENTaNABLAaELEMENT_OFaNOT_AN_ELEMENT_OF
    aSMALL_ELEMENT_OFaCONTAINS_AS_MEMBERaDOES_NOT_CONTAIN_AS_MEMBERaSMALL_CONTAINS_AS_MEMBERaEND_OF_PROOF
    aN-ARY_PRODUCTbCOPRODUCTbSUMMATIONaMINUS_SIGNaMINUS-OR-PLUS_SIGNaDOT_PLUSaDIVISION_SLASHaSET_MINUS
    aASTERISK_OPERATORaRING_OPERATORaBULLET_OPERATORaSQUARE_ROOTaCUBE_ROOTaFOURTH_ROOTaPROPORTIONAL_TOaINFINITY
    aRIGHT_ANGLEaANGLEaMEASURED_ANGLEaSPHERICAL_ANGLEaDIVIDESaDOES_NOT_DIVIDEaPARALLEL_TOaNOT_PARALLEL_TO
    aLOGICAL_ANDbORaINTERSECTIONaUNIONaINTEGRALaDOUBLE_INTEGRALaTRIPLE_INTEGRALaCONTOUR_INTEGRALaSURFACE_INTEGRAL
    aVOLUME_INTEGRALaCLOCKWISE_INTEGRALbCONTOUR_INTEGRALaANTICLOCKWISE_CONTOUR_INTEGRALaTHEREFOREaBECAUSEaRATIO
    aPROPORTIONaDOT_MINUSaEXCESSaGEOMETRIC_PROPORTIONaHOMOTHETICaTILDE_OPERATORaREVERSED_TILDEaINVERTED_LAZY_S
    aSINE_WAVEaWREATH_PRODUCTaNOT_TILDEaMINUS_TILDEaASYMPTOTICALLY_EQUAL_TOaNOT_ASYMPTOTICALLY_EQUAL_TO
    aAPPROXIMATELY_EQUAL_TObBUT_NOT_ACTUALLY_EQUAL_TOaNEITHER_APPROXIMATELY_NOR_ACTUALLY_EQUAL_TOaALMOST_EQUAL_TO
    aNOT_ALMOST_EQUAL_TOaALMOST_EQUAL_OR_EQUAL_TOaTRIPLE_TILDEaALL_EQUAL_TOaEQUIVALENT_TO
    aGEOMETRICALLY_EQUIVALENT_TOaDIFFERENCE_BETWEENaAPPROACHES_THE_LIMITaGEOMETRICALLY_EQUAL_TO
    aAPPROXIMATELY_EQUAL_TO_OR_THE_IMAGE_OFaIMAGE_OF_OR_APPROXIMATELY_EQUAL_TOaCOLON_EQUALSaEQUALS_COLON
    aRING_IN_EQUAL_TObEQUAL_TOaCORRESPONDS_TOaESTIMATESaEQUIANGULAR_TOaSTAR_EQUALSaDELTA_EQUAL_TO
    aEQUAL_TO_BY_DEFINITIONaMEASURED_BYaQUESTIONED_EQUAL_TOaNOT_EQUAL_TOaIDENTICAL_TOaNOT_IDENTICAL_TO
    aSTRICTLY_EQUIVALENT_TOaLESS-THAN_OR_EQUAL_TOaGREATER-THAN_OR_EQUAL_TOaLESS-THAN_OVER_EQUAL_TO
    aGREATER-THAN_OVER_EQUAL_TOaLESS-THAN_BUT_NOT_EQUAL_TOaGREATER-THAN_BUT_NOT_EQUAL_TOaMUCH_LESS-THANbGREATER-THAN
    aBETWEENaNOT_EQUIVALENT_TObLESS-THANbGREATER-THANaNEITHER_LESS-THAN_NOR_EQUAL_TObGREATER-THAN_NOR_EQUAL_TO
    aLESS-THAN_OR_EQUIVALENT_TOaGREATER-THAN_OR_EQUIVALENT_TOaNEITHER_LESS-THAN_NOR_EQUIVALENT_TO
    bGREATER-THAN_NOR_EQUIVALENT_TOaLESS-THAN_OR_GREATER-THANaGREATER-THAN_OR_LESS-THAN
    aNEITHER_LESS-THAN_NOR_GREATER-THANbGREATER-THAN_NOR_LESS-THANaPRECEDESaSUCCEEDSaPRECEDES_OR_EQUAL_TO
    aSUCCEEDS_OR_EQUAL_TOaPRECEDES_OR_EQUIVALENT_TOaSUCCEEDS_OR_EQUIVALENT_TOaDOES_NOT_PRECEDEcSUCCEEDaSUBSET_OF
    aSUPERSET_OFaNOT_A_SUBSET_OFcSUPERSET_OFaSUBSET_OF_OR_EQUAL_TOaSUPERSET_OF_OR_EQUAL_TO
    aNEITHER_A_SUBSET_OF_NOR_EQUAL_TOcSUPERSET_OF_NOR_EQUAL_TOaSUBSET_OF_WITH_NOT_EQUAL_TO
    aSUPERSET_OF_WITH_NOT_EQUAL_TOaMULTISETbMULTIPLICATIONbUNIONaSQUARE_IMAGE_OFbORIGINAL_OFbIMAGE_OF_OR_EQUAL_TO
    bORIGINAL_OF_OR_EQUAL_TObCAPbCUPaCIRCLED_PLUSbMINUSbTIMESbDIVISION_SLASHbDOT_OPERATORbRING_OPERATOR
    bASTERISK_OPERATORbEQUALSbDASHaSQUARED_PLUSbMINUSbTIMESbDOT_OPERATORaRIGHT_TACKaLEFT_TACKaDOWN_TACKaUP_TACK
    aASSERTIONaMODELSaTRUEaFORCESaTRIPLE_VERTICAL_BAR_RIGHT_TURNSTILEaDOUBLE_VERTICAL_BAR_DOUBLE_RIGHT_TURNSTILE
    aDOES_NOT_PROVEaNOT_TRUEaDOES_NOT_FORCEaNEGATED_DOUBLE_VERTICAL_BAR_DOUBLE_RIGHT_TURNSTILE
    aPRECEDES_UNDER_RELATIONaSUCCEEDS_UNDER_RELATIONaNORMAL_SUBGROUP_OFaCONTAINS_AS_NORMAL_SUBGROUP
    aNORMAL_SUBGROUP_OF_OR_EQUAL_TOaCONTAINS_AS_NORMAL_SUBGROUP_OR_EQUAL_TOaORIGINAL_OFaIMAGE_OFaMULTIMAP
    aHERMITIAN_CONJUGATE_MATRIXaINTERCALATEaXORaNANDaNORaRIGHT_ANGLE_WITH_ARCbTRIANGLEaN-ARY_LOGICAL_ANDcOR
    bINTERSECTIONbUNIONaDIAMOND_OPERATORaDOT_OPERATORaSTAR_OPERATORaDIVISION_TIMESaBOWTIE
    aLEFT_NORMAL_FACTOR_SEMIDIRECT_PRODUCTaRIGHT_NORMAL_FACTOR_SEMIDIRECT_PRODUCTaLEFT_SEMIDIRECT_PRODUCT
    aRIGHT_SEMIDIRECT_PRODUCTaREVERSED_TILDE_EQUALSaCURLY_LOGICAL_ORcANDaDOUBLE_SUBSETbSUPERSETbINTERSECTIONbUNION
    aPITCHFORKaEQUAL_AND_PARALLEL_TOaLESS-THAN_WITH_DOTaGREATER-THAN_WITH_DOTaVERY_MUCH_LESS-THANcGREATER-THAN
    aLESS-THAN_EQUAL_TO_OR_GREATER-THANaGREATER-THAN_EQUAL_TO_OR_LESS-THANaEQUAL_TO_OR_LESS-THANdGREATER-THAN
    dPRECEDESdSUCCEEDSaDOES_NOT_PRECEDE_OR_EQUALcSUCCEED_OR_EQUALaNOT_SQUARE_IMAGE_OF_OR_EQUAL_TO
    cORIGINAL_OF_OR_EQUAL_TOaSQUARE_IMAGE_OF_OR_NOT_EQUAL_TObORIGINAL_OF_OR_NOT_EQUAL_TO
    aLESS-THAN_BUT_NOT_EQUIVALENT_TOaGREATER-THAN_BUT_NOT_EQUIVALENT_TOaPRECEDES_BUT_NOT_EQUIVALENT_TO
    aSUCCEEDS_BUT_NOT_EQUIVALENT_TOaNOT_NORMAL_SUBGROUP_OFaDOES_NOT_CONTAIN_AS_NORMAL_SUBGROUP
    aNOT_NORMAL_SUBGROUP_OF_OR_EQUAL_TOaDOES_NOT_CONTAIN_AS_NORMAL_SUBGROUP_OR_EQUALaVERTICAL_ELLIPSIS
    aMIDLINE_HORIZONTAL_ELLIPSISaUP_RIGHT_DIAGONAL_ELLIPSISaDOWN_RIGHT_DIAGONAL_ELLIPSIS
    aELEMENT_OF_WITH_LONG_HORIZONTAL_STROKEdVERTICAL_BAR_AT_END_OF_HORIZONTAL_STROKE
    aSMALL_ELEMENT_OF_WITH_VERTICAL_BAR_AT_END_OF_HORIZONTAL_STROKEaELEMENT_OF_WITH_DOT_ABOVEdOVERBAR
    aSMALL_ELEMENT_OF_WITH_OVERBARaELEMENT_OF_WITH_UNDERBARdTWO_HORIZONTAL_STROKES
    aCONTAINS_WITH_LONG_HORIZONTAL_STROKEcVERTICAL_BAR_AT_END_OF_HORIZONTAL_STROKE
    aSMALL_CONTAINS_WITH_VERTICAL_BAR_AT_END_OF_HORIZONTAL_STROKEaCONTAINS_WITH_OVERBARaSMALL_CONTAINS_WITH_OVERBAR
    aZ_NOTATION_BAG_MEMBERSHIPaDIAMETER_SIGNaELECTRIC_ARROWaHOUSEaUP_ARROWHEADaDOWN_ARROWHEADaPROJECTIVEaPERSPECTIVE
    aWAVY_LINEaLEFT_CEILINGaRIGHT_CEILINGaLEFT_FLOORaRIGHT_FLOORaBOTTOM_RIGHT_CROPbLEFT_CROPaTOP_RIGHT_CROP
    bLEFT_CROPaREVERSED_NOT_SIGNaSQUARE_LOZENGEaARCaSEGMENTaSECTORaTELEPHONE_RECORDERaPOSITION_INDICATOR
    aVIEWDATA_SQUAREaPLACE_OF_INTEREST_SIGNaTURNED_NOT_SIGNaWATCHaHOURGLASSaTOP_LEFT_CORNERbRIGHT_CORNER
    aBOTTOM_LEFT_CORNERbRIGHT_CORNERaTOP_HALF_INTEGRALaBOTTOM_HALF_INTEGRALaFROWNaSMILE
    aUP_ARROWHEAD_BETWEEN_TWO_HORIZONTAL_BARSaOPTION_KEYaERASE_TO_THE_RIGHTaX_IN_A_RECTANGLE_BOXaKEYBOARD
    aLEFT-POINTING_ANGLE_BRACKETaRIGHT-POINTING_ANGLE_BRACKETaERASE_TO_THE_LEFTaBENZENE_RINGaCYLINDRICITY
    aALL_AROUND-PROFILEaSYMMETRYaTOTAL_RUNOUTaDIMENSION_ORIGINaCONICAL_TAPERaSLOPEaCOUNTERBOREaCOUNTERSINK
    aAPL_FUNCTIONAL_SYMBOL_I-BEAMdSQUISH_QUADdQUAD_EQUALeDIVIDEeDIAMONDeJOTeCIRCLEdCIRCLE_STILEeJOTdSLASH_BAR
    dBACKSLASH_BARdQUAD_SLASHeBACKSLASHeLESS-THANeGREATER-THANdLEFTWARDS_VANEdRIGHTWARDS_VANEdQUAD_LEFTWARDS_ARROW
    eRIGHTWARDS_ARROWdCIRCLE_BACKSLASHdDOWN_TACK_UNDERBARdDELTA_STILEdQUAD_DOWN_CARETeDELTAdDOWN_TACK_JOT
    dUPWARDS_VANEdQUAD_UPWARDS_ARROWdUP_TACK_OVERBARdDEL_STILEdQUAD_UP_CARETeDELdUP_TACK_JOTdDOWNWARDS_VANE
    dQUAD_DOWNWARDS_ARROWdQUOTE_UNDERBARdDELTA_UNDERBARdDIAMOND_UNDERBARdJOT_UNDERBARdCIRCLE_UNDERBARdUP_SHOE_JOT
    dQUOTE_QUADdCIRCLE_STARdQUAD_COLONdUP_TACK_DIAERESISdDEL_DIAERESISdSTAR_DIAERESISdJOT_DIAERESISdCIRCLE_DIAERESIS
    dDOWN_SHOE_STILEdLEFT_SHOE_STILEdTILDE_DIAERESISdGREATER-THAN_DIAERESISdCOMMA_BARdDEL_TILDEdZILDEdSTILE_TILDE
    dSEMICOLON_UNDERBARdQUAD_NOT_EQUALeQUESTIONdDOWN_CARET_TILDEdUP_CARET_TILDEdIOTAdRHOdOMEGAdALPHA_UNDERBAR
    dEPSILON_UNDERBARdIOTA_UNDERBARdOMEGA_UNDERBARdALPHAaNOT_CHECK_MARKaRIGHT_ANGLE_WITH_DOWNWARDS_ZIGZAG_ARROW
    aSHOULDERED_OPEN_BOXaBELL_SYMBOLaVERTICAL_LINE_WITH_MIDDLE_DOTaINSERTION_SYMBOLaCONTINUOUS_UNDERLINE_SYMBOL
    aDISCONTINUOUS_UNDERLINE_SYMBOLaEMPHASIS_SYMBOLaCOMPOSITION_SYMBOLaWHITE_SQUARE_WITH_CENTRE_VERTICAL_LINE
    aENTER_SYMBOLaALTERNATIVE_KEY_SYMBOLaHELM_SYMBOLaCIRCLED_HORIZONTAL_BAR_WITH_NOTCHbTRIANGLE_DOWN
    aBROKEN_CIRCLE_WITH_NORTHWEST_ARROWaUNDO_SYMBOLaMONOSTABLE_SYMBOLaHYSTERESIS_SYMBOL
    aOPEN-CIRCUIT-OUTPUT_H-TYPE_SYMBOLbL-TYPE_SYMBOLaPASSIVE-PULL-DOWN-OUTPUT_SYMBOLaPASSIVE-PULL-UP-OUTPUT_SYMBOL
    aDIRECT_CURRENT_SYMBOL_FORM_TWOaSOFTWARE-FUNCTION_SYMBOLaAPL_FUNCTIONAL_SYMBOL_QUADaDECIMAL_SEPARATOR_KEY_SYMBOL
    aPREVIOUS_PAGEaNEXT_PAGEaPRINT_SCREEN_SYMBOLaCLEAR_SCREEN_SYMBOLaLEFT_PARENTHESIS_UPPER_HOOKcEXTENSION
    cLOWER_HOOKaRIGHT_PARENTHESIS_UPPER_HOOKcEXTENSIONcLOWER_HOOKaLEFT_SQUARE_BRACKET_UPPER_CORNERdEXTENSION
    dLOWER_CORNERaRIGHT_SQUARE_BRACKET_UPPER_CORNERdEXTENSIONdLOWER_CORNERaLEFT_CURLY_BRACKET_UPPER_HOOK
    dMIDDLE_PIECEdLOWER_HOOKaCURLY_BRACKET_EXTENSIONaRIGHT_CURLY_BRACKET_UPPER_HOOKdMIDDLE_PIECEdLOWER_HOOK
    aINTEGRAL_EXTENSIONaHORIZONTAL_LINE_EXTENSIONaUPPER_LEFT_OR_LOWER_RIGHT_CURLY_BRACKET_SECTION
    bRIGHT_OR_LOWER_LEFT_CURLY_BRACKET_SECTIONaSUMMATION_TOPbBOTTOMaTOP_SQUARE_BRACKETaBOTTOM_SQUARE_BRACKET
    dOVER_TOP_SQUARE_BRACKETaRADICAL_SYMBOL_BOTTOMaLEFT_VERTICAL_BOX_LINEaRIGHT_VERTICAL_BOX_LINE
    aHORIZONTAL_SCAN_LINE-1cLINE-3cLINE-7cLINE-9aDENTISTRY_SYMBOL_LIGHT_VERTICAL_AND_TOP_RIGHTfBOTTOM_RIGHT
    eWITH_CIRCLEdDOWN_AND_HORIZONTAL_WITH_CIRCLEdUP_AND_HORIZONTAL_WITH_CIRCLEdVERTICAL_WITH_TRIANGLE
    dDOWN_AND_HORIZONTAL_WITH_TRIANGLEdUP_AND_HORIZONTAL_WITH_TRIANGLEdVERTICAL_AND_WAVE
    dDOWN_AND_HORIZONTAL_WITH_WAVEdUP_AND_HORIZONTAL_WITH_WAVEdDOWN_AND_HORIZONTALdUP_AND_HORIZONTAL
    dVERTICAL_AND_TOP_LEFTfBOTTOM_LEFTaSQUARE_FOOTaRETURN_SYMBOLaEJECT_SYMBOLaVERTICAL_LINE_EXTENSIONaMETRICAL_BREVE
    bLONG_OVER_SHORTbSHORT_OVER_LONGbLONG_OVER_TWO_SHORTSbTWO_SHORTS_OVER_LONGdJOINEDbTRISEMEbTETRASEMEbPENTASEME
    aEARTH_GROUNDaFUSEaTOP_PARENTHESISaBOTTOM_PARENTHESISaTOP_CURLY_BRACKETaBOTTOM_CURLY_BRACKET
    aTOP_TORTOISE_SHELL_BRACKETaBOTTOM_TORTOISE_SHELL_BRACKETaWHITE_TRAPEZIUMaBENZENE_RING_WITH_CIRCLEaSTRAIGHTNESS
    aFLATNESSaAC_CURRENTaELECTRICAL_INTERSECTIONaDECIMAL_EXPONENT_SYMBOLaBLACK_RIGHT-POINTING_DOUBLE_TRIANGLE
    bLEFT-POINTING_DOUBLE_TRIANGLEbUP-POINTING_DOUBLE_TRIANGLEbDOWN-POINTING_DOUBLE_TRIANGLE
    bRIGHT-POINTING_DOUBLE_TRIANGLE_WITH_VERTICAL_BARbLEFT-POINTING_DOUBLE_TRIANGLE_WITH_VERTICAL_BAR
    bRIGHT-POINTING_TRIANGLE_WITH_DOUBLE_VERTICAL_BARaALARM_CLOCKaSTOPWATCHaTIMER_CLOCKaHOURGLASS_WITH_FLOWING_SAND
    aBLACK_MEDIUM_LEFT-POINTING_TRIANGLEcRIGHT-POINTING_TRIANGLEcUP-POINTING_TRIANGLEcDOWN-POINTING_TRIANGLE
    aDOUBLE_VERTICAL_BARaBLACK_SQUARE_FOR_STOPbCIRCLE_FOR_RECORDaPOWER_SYMBOLbON-OFF_SYMBOLbON_SYMBOLbSLEEP_SYMBOL
    aOBSERVER_EYE_SYMBOLaSYMBOL_FOR_NULLcSTART_OF_HEADINGeTEXTcEND_OF_TEXTeTRANSMISSIONcENQUIRYcACKNOWLEDGEcBELL
    cBACKSPACEcHORIZONTAL_TABULATIONcLINE_FEEDcVERTICAL_TABULATIONcFORM_FEEDcCARRIAGE_RETURNcSHIFT_OUTdIN
    cDATA_LINK_ESCAPEcDEVICE_CONTROL_ONEeTWOeTHREEeFOURcNEGATIVE_ACKNOWLEDGEcSYNCHRONOUS_IDLE
    cEND_OF_TRANSMISSION_BLOCKcCANCELcEND_OF_MEDIUMcSUBSTITUTEcESCAPEcFILE_SEPARATORcGROUP_SEPARATOR
    cRECORD_SEPARATORcUNIT_SEPARATORcSPACEcDELETEaBLANK_SYMBOLaOPEN_BOXaSYMBOL_FOR_NEWLINEcDELETE_FORM_TWO
    cSUBSTITUTE_FORM_TWO:2440aOCR_HOOKbCHAIRbFORKbINVERTED_FORKbBELT_BUCKLEbBOW_TIEbBRANCH_BANK_IDENTIFICATION
    bAMOUNT_OF_CHECKbDASHbCUSTOMER_ACCOUNT_NUMBERbDOUBLE_BACKSLASH:2460aCIRCLED_DIGIT_ONEcTWOcTHREEcFOURcFIVEcSIX
    cSEVENcEIGHTcNINEbNUMBER_TENcELEVENcTWELVEcTHIRTEENcFOURTEENcFIFTEENcSIXTEENcSEVENTEENcEIGHTEENcNINETEENcTWENTY
    aPARENTHESIZED_DIGIT_ONEcTWOcTHREEcFOURcFIVEcSIXcSEVENcEIGHTcNINEbNUMBER_TENcELEVENcTWELVEcTHIRTEENcFOURTEEN
    cFIFTEENcSIXTEENcSEVENTEENcEIGHTEENcNINETEENcTWENTYaDIGIT_ONE_FULL_STOPbTWO_FULL_STOPbTHREE_FULL_STOP
    bFOUR_FULL_STOPbFIVE_FULL_STOPbSIX_FULL_STOPbSEVEN_FULL_STOPbEIGHT_FULL_STOPbNINE_FULL_STOPaNUMBER_TEN_FULL_STOP
    bELEVEN_FULL_STOPbTWELVE_FULL_STOPbTHIRTEEN_FULL_STOPbFOURTEEN_FULL_STOPbFIFTEEN_FULL_STOPbSIXTEEN_FULL_STOP
    bSEVENTEEN_FULL_STOPbEIGHTEEN_FULL_STOPbNINETEEN_FULL_STOPbTWENTY_FULL_STOPaPARENTHESIZED_LATIN_SMALL_LETTER_AeB
    eCeDeEeFeGeHeIeJeKeLeMeNeOePeQeReSeTeUeVeWeXeYeZaCIRCLED_LATIN_CAPITAL_LETTER_AeBeCeDeEeFeGeHeIeJeKeLeMeNeOePeQ
    eReSeTeUeVeWeXeYeZcSMALL_LETTER_AeBeCeDeEeFeGeHeIeJeKeLeMeNeOePeQeReSeTeUeVeWeXeYeZbDIGIT_ZERO
    aNEGATIVE_CIRCLED_NUMBER_ELEVENdTWELVEdTHIRTEENdFOURTEENdFIFTEENdSIXTEENdSEVENTEENdEIGHTEENdNINETEENdTWENTY
    aDOUBLE_CIRCLED_DIGIT_ONEdTWOdTHREEdFOURdFIVEdSIXdSEVENdEIGHTdNINEcNUMBER_TENaNEGATIVE_CIRCLED_DIGIT_ZERO
    aBOX_DRAWINGS_LIGHT_HORIZONTALcHEAVY_HORIZONTALcLIGHT_VERTICALcHEAVY_VERTICALcLIGHT_TRIPLE_DASH_HORIZONTAL
    cHEAVY_TRIPLE_DASH_HORIZONTALcLIGHT_TRIPLE_DASH_VERTICALcHEAVY_TRIPLE_DASH_VERTICAL
    cLIGHT_QUADRUPLE_DASH_HORIZONTALcHEAVY_QUADRUPLE_DASH_HORIZONTALcLIGHT_QUADRUPLE_DASH_VERTICAL
    cHEAVY_QUADRUPLE_DASH_VERTICALcLIGHT_DOWN_AND_RIGHTcDOWN_LIGHT_AND_RIGHT_HEAVYdHEAVY_AND_RIGHT_LIGHT
    cHEAVY_DOWN_AND_RIGHTcLIGHT_DOWN_AND_LEFTcDOWN_LIGHT_AND_LEFT_HEAVYdHEAVY_AND_LEFT_LIGHTcHEAVY_DOWN_AND_LEFT
    cLIGHT_UP_AND_RIGHTcUP_LIGHT_AND_RIGHT_HEAVYdHEAVY_AND_RIGHT_LIGHTcHEAVY_UP_AND_RIGHTcLIGHT_UP_AND_LEFT
    cUP_LIGHT_AND_LEFT_HEAVYdHEAVY_AND_LEFT_LIGHTcHEAVY_UP_AND_LEFTcLIGHT_VERTICAL_AND_RIGHT
    cVERTICAL_LIGHT_AND_RIGHT_HEAVYcUP_HEAVY_AND_RIGHT_DOWN_LIGHTcDOWN_HEAVY_AND_RIGHT_UP_LIGHT
    cVERTICAL_HEAVY_AND_RIGHT_LIGHTcDOWN_LIGHT_AND_RIGHT_UP_HEAVYcUP_LIGHT_AND_RIGHT_DOWN_HEAVY
    cHEAVY_VERTICAL_AND_RIGHTcLIGHT_VERTICAL_AND_LEFTcVERTICAL_LIGHT_AND_LEFT_HEAVYcUP_HEAVY_AND_LEFT_DOWN_LIGHT
    cDOWN_HEAVY_AND_LEFT_UP_LIGHTcVERTICAL_HEAVY_AND_LEFT_LIGHTcDOWN_LIGHT_AND_LEFT_UP_HEAVY
    cUP_LIGHT_AND_LEFT_DOWN_HEAVYcHEAVY_VERTICAL_AND_LEFTcLIGHT_DOWN_AND_HORIZONTALcLEFT_HEAVY_AND_RIGHT_DOWN_LIGHT
    cRIGHT_HEAVY_AND_LEFT_DOWN_LIGHTcDOWN_LIGHT_AND_HORIZONTAL_HEAVYdHEAVY_AND_HORIZONTAL_LIGHT
    cRIGHT_LIGHT_AND_LEFT_DOWN_HEAVYcLEFT_LIGHT_AND_RIGHT_DOWN_HEAVYcHEAVY_DOWN_AND_HORIZONTAL
    cLIGHT_UP_AND_HORIZONTALcLEFT_HEAVY_AND_RIGHT_UP_LIGHTcRIGHT_HEAVY_AND_LEFT_UP_LIGHT
    cUP_LIGHT_AND_HORIZONTAL_HEAVYdHEAVY_AND_HORIZONTAL_LIGHTcRIGHT_LIGHT_AND_LEFT_UP_HEAVY
    cLEFT_LIGHT_AND_RIGHT_UP_HEAVYcHEAVY_UP_AND_HORIZONTALcLIGHT_VERTICAL_AND_HORIZONTAL
    cLEFT_HEAVY_AND_RIGHT_VERTICAL_LIGHTcRIGHT_HEAVY_AND_LEFT_VERTICAL_LIGHTcVERTICAL_LIGHT_AND_HORIZONTAL_HEAVY
    cUP_HEAVY_AND_DOWN_HORIZONTAL_LIGHTcDOWN_HEAVY_AND_UP_HORIZONTAL_LIGHTcVERTICAL_HEAVY_AND_HORIZONTAL_LIGHT
    cLEFT_UP_HEAVY_AND_RIGHT_DOWN_LIGHTcRIGHT_UP_HEAVY_AND_LEFT_DOWN_LIGHTcLEFT_DOWN_HEAVY_AND_RIGHT_UP_LIGHT
    cRIGHT_DOWN_HEAVY_AND_LEFT_UP_LIGHTcDOWN_LIGHT_AND_UP_HORIZONTAL_HEAVYcUP_LIGHT_AND_DOWN_HORIZONTAL_HEAVY
    cRIGHT_LIGHT_AND_LEFT_VERTICAL_HEAVYcLEFT_LIGHT_AND_RIGHT_VERTICAL_HEAVYcHEAVY_VERTICAL_AND_HORIZONTAL
    cLIGHT_DOUBLE_DASH_HORIZONTALcHEAVY_DOUBLE_DASH_HORIZONTALcLIGHT_DOUBLE_DASH_VERTICALcHEAVY_DOUBLE_DASH_VERTICAL
    cDOUBLE_HORIZONTALdVERTICALcDOWN_SINGLE_AND_RIGHT_DOUBLEdDOUBLE_AND_RIGHT_SINGLEcDOUBLE_DOWN_AND_RIGHT
    cDOWN_SINGLE_AND_LEFT_DOUBLEdDOUBLE_AND_LEFT_SINGLEcDOUBLE_DOWN_AND_LEFTcUP_SINGLE_AND_RIGHT_DOUBLE
    dDOUBLE_AND_RIGHT_SINGLEcDOUBLE_UP_AND_RIGHTcUP_SINGLE_AND_LEFT_DOUBLEdDOUBLE_AND_LEFT_SINGLEcDOUBLE_UP_AND_LEFT
    cVERTICAL_SINGLE_AND_RIGHT_DOUBLEdDOUBLE_AND_RIGHT_SINGLEcDOUBLE_VERTICAL_AND_RIGHT
    cVERTICAL_SINGLE_AND_LEFT_DOUBLEdDOUBLE_AND_LEFT_SINGLEcDOUBLE_VERTICAL_AND_LEFT
    cDOWN_SINGLE_AND_HORIZONTAL_DOUBLEdDOUBLE_AND_HORIZONTAL_SINGLEcDOUBLE_DOWN_AND_HORIZONTAL
    cUP_SINGLE_AND_HORIZONTAL_DOUBLEdDOUBLE_AND_HORIZONTAL_SINGLEcDOUBLE_UP_AND_HORIZONTAL
    cVERTICAL_SINGLE_AND_HORIZONTAL_DOUBLEdDOUBLE_AND_HORIZONTAL_SINGLEcDOUBLE_VERTICAL_AND_HORIZONTAL
    cLIGHT_ARC_DOWN_AND_RIGHTgLEFTeUP_AND_LEFTgRIGHTdDIAGONAL_UPPER_RIGHT_TO_LOWER_LEFTfLEFT_TO_LOWER_RIGHTeCROSS
    dLEFTdUPdRIGHTdDOWNcHEAVY_LEFTdUPdRIGHTdDOWNcLIGHT_LEFT_AND_HEAVY_RIGHTdUP_AND_HEAVY_DOWN
    cHEAVY_LEFT_AND_LIGHT_RIGHTdUP_AND_LIGHT_DOWNaUPPER_HALF_BLOCKaLOWER_ONE_EIGHTH_BLOCKcQUARTER_BLOCK
    bTHREE_EIGHTHS_BLOCKbHALF_BLOCKbFIVE_EIGHTHS_BLOCKbTHREE_QUARTERS_BLOCKbSEVEN_EIGHTHS_BLOCKaFULL_BLOCK
    aLEFT_SEVEN_EIGHTHS_BLOCKbTHREE_QUARTERS_BLOCKbFIVE_EIGHTHS_BLOCKbHALF_BLOCKbTHREE_EIGHTHS_BLOCK
    bONE_QUARTER_BLOCKcEIGHTH_BLOCKaRIGHT_HALF_BLOCKaLIGHT_SHADEaMEDIUM_SHADEaDARK_SHADEaUPPER_ONE_EIGHTH_BLOCK
    aRIGHT_ONE_EIGHTH_BLOCKaQUADRANT_LOWER_LEFTcRIGHTbUPPER_LEFTdAND_LOWER_LEFT_AND_LOWER_RIGHTfRIGHT
    eUPPER_RIGHT_AND_LOWER_LEFTiRIGHTcRIGHTdAND_LOWER_LEFTgAND_LOWER_RIGHTaBLACK_SQUAREaWHITE_SQUARE
    cWITH_ROUNDED_CORNERScCONTAINING_BLACK_SMALL_SQUAREaSQUARE_WITH_HORIZONTAL_FILLcVERTICAL_FILL
    cORTHOGONAL_CROSSHATCH_FILLcUPPER_LEFT_TO_LOWER_RIGHT_FILLdRIGHT_TO_LOWER_LEFT_FILLcDIAGONAL_CROSSHATCH_FILL
    aBLACK_SMALL_SQUAREaWHITE_SMALL_SQUAREaBLACK_RECTANGLEaWHITE_RECTANGLEaBLACK_VERTICAL_RECTANGLE
    aWHITE_VERTICAL_RECTANGLEaBLACK_PARALLELOGRAMaWHITE_PARALLELOGRAMaBLACK_UP-POINTING_TRIANGLE
    aWHITE_UP-POINTING_TRIANGLEaBLACK_UP-POINTING_SMALL_TRIANGLEaWHITE_UP-POINTING_SMALL_TRIANGLE
    aBLACK_RIGHT-POINTING_TRIANGLEaWHITE_RIGHT-POINTING_TRIANGLEaBLACK_RIGHT-POINTING_SMALL_TRIANGLE
    aWHITE_RIGHT-POINTING_SMALL_TRIANGLEaBLACK_RIGHT-POINTING_POINTERaWHITE_RIGHT-POINTING_POINTER
    aBLACK_DOWN-POINTING_TRIANGLEaWHITE_DOWN-POINTING_TRIANGLEaBLACK_DOWN-POINTING_SMALL_TRIANGLE
    aWHITE_DOWN-POINTING_SMALL_TRIANGLEaBLACK_LEFT-POINTING_TRIANGLEaWHITE_LEFT-POINTING_TRIANGLE
    aBLACK_LEFT-POINTING_SMALL_TRIANGLEaWHITE_LEFT-POINTING_SMALL_TRIANGLEaBLACK_LEFT-POINTING_POINTER
    aWHITE_LEFT-POINTING_POINTERaBLACK_DIAMONDaWHITE_DIAMONDcCONTAINING_BLACK_SMALL_DIAMONDaFISHEYEaLOZENGE
    aWHITE_CIRCLEaDOTTED_CIRCLEaCIRCLE_WITH_VERTICAL_FILLaBULLSEYEaBLACK_CIRCLEaCIRCLE_WITH_LEFT_HALF_BLACK
    cRIGHT_HALF_BLACKcLOWER_HALF_BLACKcUPPER_HALF_BLACKdRIGHT_QUADRANT_BLACKcALL_BUT_UPPER_LEFT_QUADRANT_BLACK
    aLEFT_HALF_BLACK_CIRCLEaRIGHT_HALF_BLACK_CIRCLEaINVERSE_BULLETbWHITE_CIRCLEaUPPER_HALF_INVERSE_WHITE_CIRCLE
    aLOWER_HALF_INVERSE_WHITE_CIRCLEaUPPER_LEFT_QUADRANT_CIRCULAR_ARCbRIGHT_QUADRANT_CIRCULAR_ARC
    aLOWER_RIGHT_QUADRANT_CIRCULAR_ARCbLEFT_QUADRANT_CIRCULAR_ARCaUPPER_HALF_CIRCLEaLOWER_HALF_CIRCLE
    aBLACK_LOWER_RIGHT_TRIANGLEcLEFT_TRIANGLEbUPPER_LEFT_TRIANGLEcRIGHT_TRIANGLEaWHITE_BULLET
    aSQUARE_WITH_LEFT_HALF_BLACKcRIGHT_HALF_BLACKcUPPER_LEFT_DIAGONAL_HALF_BLACKcLOWER_RIGHT_DIAGONAL_HALF_BLACK
    aWHITE_SQUARE_WITH_VERTICAL_BISECTING_LINEbUP-POINTING_TRIANGLE_WITH_DOT
    aUP-POINTING_TRIANGLE_WITH_LEFT_HALF_BLACKdRIGHT_HALF_BLACKaLARGE_CIRCLEaWHITE_SQUARE_WITH_UPPER_LEFT_QUADRANT
    dLOWER_LEFT_QUADRANTeRIGHT_QUADRANTdUPPER_RIGHT_QUADRANTbCIRCLE_WITH_UPPER_LEFT_QUADRANTdLOWER_LEFT_QUADRANT
    eRIGHT_QUADRANTdUPPER_RIGHT_QUADRANTaUPPER_LEFT_TRIANGLEbRIGHT_TRIANGLEaLOWER_LEFT_TRIANGLEaWHITE_MEDIUM_SQUARE
    aBLACK_MEDIUM_SQUAREaWHITE_MEDIUM_SMALL_SQUAREaBLACK_MEDIUM_SMALL_SQUAREaLOWER_RIGHT_TRIANGLE
    aBLACK_SUN_WITH_RAYSaCLOUDaUMBRELLAaSNOWMANaCOMETaBLACK_STARaWHITE_STARaLIGHTNINGaTHUNDERSTORMaSUN
    aASCENDING_NODEaDESCENDING_NODEaCONJUNCTIONaOPPOSITIONaBLACK_TELEPHONEaWHITE_TELEPHONEaBALLOT_BOXcWITH_CHECKdX
    aSALTIREaUMBRELLA_WITH_RAIN_DROPSaHOT_BEVERAGEaWHITE_SHOGI_PIECEaBLACK_SHOGI_PIECEaSHAMROCK
    aREVERSED_ROTATED_FLORAL_HEART_BULLETaBLACK_LEFT_POINTING_INDEXbRIGHT_POINTING_INDEXaWHITE_LEFT_POINTING_INDEX
    bUP_POINTING_INDEXbRIGHT_POINTING_INDEXbDOWN_POINTING_INDEXaSKULL_AND_CROSSBONESaCAUTION_SIGNaRADIOACTIVE_SIGN
    aBIOHAZARD_SIGNaCADUCEUSaANKHaORTHODOX_CROSSaCHI_RHOaCROSS_OF_LORRAINEcJERUSALEMaSTAR_AND_CRESCENTaFARSI_SYMBOL
    aADI_SHAKTIaHAMMER_AND_SICKLEaPEACE_SYMBOLaYIN_YANGaTRIGRAM_FOR_HEAVENcLAKEcFIREcTHUNDERcWINDcWATERcMOUNTAIN
    cEARTHaWHEEL_OF_DHARMAaWHITE_FROWNING_FACEbSMILING_FACEaBLACK_SMILING_FACEaWHITE_SUN_WITH_RAYS
    aFIRST_QUARTER_MOONaLAST_QUARTER_MOONaMERCURYaFEMALE_SIGNaEARTHaMALE_SIGNaJUPITERaSATURNaURANUSaNEPTUNEaPLUTO
    aARIESaTAURUSaGEMINIaCANCERaLEOaVIRGOaLIBRAaSCORPIUSaSAGITTARIUSaCAPRICORNaAQUARIUSaPISCESaWHITE_CHESS_KING
    cQUEENcROOKcBISHOPcKNIGHTcPAWNaBLACK_CHESS_KINGcQUEENcROOKcBISHOPcKNIGHTcPAWNbSPADE_SUITaWHITE_HEART_SUIT
    bDIAMOND_SUITaBLACK_CLUB_SUITaWHITE_SPADE_SUITaBLACK_HEART_SUITbDIAMOND_SUITaWHITE_CLUB_SUITaHOT_SPRINGS
    aQUARTER_NOTEaEIGHTH_NOTEaBEAMED_EIGHTH_NOTESbSIXTEENTH_NOTESaMUSIC_FLAT_SIGNbNATURAL_SIGNbSHARP_SIGN
    aWEST_SYRIAC_CROSSaEAST_SYRIAC_CROSSaUNIVERSAL_RECYCLING_SYMBOLaRECYCLING_SYMBOL_FOR_TYPE-1_PLASTICS
    dTYPE-2_PLASTICSdTYPE-3_PLASTICSdTYPE-4_PLASTICSdTYPE-5_PLASTICSdTYPE-6_PLASTICSdTYPE-7_PLASTICS
    dGENERIC_MATERIALSaBLACK_UNIVERSAL_RECYCLING_SYMBOLaRECYCLED_PAPER_SYMBOLaPARTIALLY-RECYCLED_PAPER_SYMBOL
    aPERMANENT_PAPER_SIGNaWHEELCHAIR_SYMBOLaDIE_FACE-1bFACE-2bFACE-3bFACE-4bFACE-5bFACE-6
    aWHITE_CIRCLE_WITH_DOT_RIGHTdTWO_DOTSaBLACK_CIRCLE_WITH_WHITE_DOT_RIGHTdTWO_WHITE_DOTSaMONOGRAM_FOR_YANGcYIN
    aDIGRAM_FOR_GREATER_YANGcLESSER_YINdYANGcGREATER_YINaWHITE_FLAGaBLACK_FLAGaHAMMER_AND_PICKaANCHORaCROSSED_SWORDS
    aSTAFF_OF_AESCULAPIUSaSCALESaALEMBICaFLOWERaGEARaSTAFF_OF_HERMESaATOM_SYMBOLaFLEUR-DE-LISaOUTLINED_WHITE_STAR
    aTHREE_LINES_CONVERGING_RIGHTdLEFTaWARNING_SIGNaHIGH_VOLTAGE_SIGNaDOUBLED_FEMALE_SIGNbMALE_SIGN
    aINTERLOCKED_FEMALE_AND_MALE_SIGNaMALE_AND_FEMALE_SIGNbWITH_STROKE_SIGNdAND_MALE_AND_FEMALE_SIGN
    aVERTICAL_MALE_WITH_STROKE_SIGNaHORIZONTAL_MALE_WITH_STROKE_SIGNaMEDIUM_WHITE_CIRCLEbBLACK_CIRCLE
    bSMALL_WHITE_CIRCLEaMARRIAGE_SYMBOLaDIVORCE_SYMBOLaUNMARRIED_PARTNERSHIP_SYMBOLaCOFFINaFUNERAL_URNaNEUTERaCERES
    aPALLASaJUNOaVESTAaCHIRONaBLACK_MOON_LILITHaSEXTILEaSEMISEXTILEaQUINCUNXaSESQUIQUADRATEaSOCCER_BALLaBASEBALL
    aSQUARED_KEYaWHITE_DRAUGHTS_MANcKINGaBLACK_DRAUGHTS_MANcKINGaSNOWMAN_WITHOUT_SNOWaSUN_BEHIND_CLOUDaRAIN
    aBLACK_SNOWMANaTHUNDER_CLOUD_AND_RAINaTURNED_WHITE_SHOGI_PIECEbBLACK_SHOGI_PIECEaWHITE_DIAMOND_IN_SQUARE
    aCROSSING_LANESaDISABLED_CARaOPHIUCHUSaPICKaCAR_SLIDINGaHELMET_WITH_WHITE_CROSSaCIRCLED_CROSSING_LANESaCHAINS
    aNO_ENTRYaALTERNATE_ONE-WAY_LEFT_WAY_TRAFFICaBLACK_TWO-WAY_LEFT_WAY_TRAFFICaWHITE_TWO-WAY_LEFT_WAY_TRAFFIC
    aBLACK_LEFT_LANE_MERGEaWHITE_LEFT_LANE_MERGEaDRIVE_SLOW_SIGNaHEAVY_WHITE_DOWN-POINTING_TRIANGLE
    aLEFT_CLOSED_ENTRYaSQUARED_SALTIREaFALLING_DIAGONAL_IN_WHITE_CIRCLE_IN_BLACK_SQUAREaBLACK_TRUCK
    aRESTRICTED_LEFT_ENTRY-1cENTRY-2aASTRONOMICAL_SYMBOL_FOR_URANUSaHEAVY_CIRCLE_WITH_STROKE_AND_TWO_DOTS_ABOVE
    aPENTAGRAMaRIGHT-HANDED_INTERLACED_PENTAGRAMaLEFT-HANDED_INTERLACED_PENTAGRAMaINVERTED_PENTAGRAM
    aBLACK_CROSS_ON_SHIELDaSHINTO_SHRINEaCHURCHaCASTLEaHISTORIC_SITEaGEAR_WITHOUT_HUBbWITH_HANDLES
    aMAP_SYMBOL_FOR_LIGHTHOUSEaMOUNTAINaUMBRELLA_ON_GROUNDaFOUNTAINaFLAG_IN_HOLEaFERRYaSAILBOATaSQUARE_FOUR_CORNERS
    aSKIERaICE_SKATEaPERSON_WITH_BALLaTENTaJAPANESE_BANK_SYMBOLaHEADSTONE_GRAVEYARD_SYMBOLaFUEL_PUMP
    aCUP_ON_BLACK_SQUAREaWHITE_FLAG_WITH_HORIZONTAL_MIDDLE_BLACK_STRIPEaBLACK_SAFETY_SCISSORSaUPPER_BLADE_SCISSORS
    aBLACK_SCISSORSaLOWER_BLADE_SCISSORSaWHITE_SCISSORSbHEAVY_CHECK_MARKaTELEPHONE_LOCATION_SIGNaTAPE_DRIVEaAIRPLANE
    aENVELOPEaRAISED_FISTbHANDaVICTORY_HANDaWRITING_HANDaLOWER_RIGHT_PENCILaPENCILaUPPER_RIGHT_PENCILaWHITE_NIB
    aBLACK_NIBaCHECK_MARKaHEAVY_CHECK_MARKaMULTIPLICATION_XaHEAVY_MULTIPLICATION_XaBALLOT_XaHEAVY_BALLOT_X
    aOUTLINED_GREEK_CROSSaHEAVY_GREEK_CROSSaOPEN_CENTRE_CROSSaHEAVY_OPEN_CENTRE_CROSSaLATIN_CROSS
    aSHADOWED_WHITE_LATIN_CROSSaOUTLINED_LATIN_CROSSaMALTESE_CROSSaSTAR_OF_DAVIDaFOUR_TEARDROP-SPOKED_ASTERISK
    bBALLOON-SPOKED_ASTERISKaHEAVY_FOUR_BALLOON-SPOKED_ASTERISKaFOUR_CLUB-SPOKED_ASTERISKaBLACK_FOUR_POINTED_STAR
    aWHITE_FOUR_POINTED_STARaSPARKLESaSTRESS_OUTLINED_WHITE_STARaCIRCLED_WHITE_STARaOPEN_CENTRE_BLACK_STAR
    aBLACK_CENTRE_WHITE_STARaOUTLINED_BLACK_STARaHEAVY_OUTLINED_BLACK_STARaPINWHEEL_STARaSHADOWED_WHITE_STAR
    aHEAVY_ASTERISKaOPEN_CENTRE_ASTERISKaEIGHT_SPOKED_ASTERISKbPOINTED_BLACK_STARcPINWHEEL_STAR
    aSIX_POINTED_BLACK_STARaEIGHT_POINTED_RECTILINEAR_BLACK_STARaHEAVY_EIGHT_POINTED_RECTILINEAR_BLACK_STAR
    aTWELVE_POINTED_BLACK_STARaSIXTEEN_POINTED_ASTERISKaTEARDROP-SPOKED_ASTERISK
    aOPEN_CENTRE_TEARDROP-SPOKED_ASTERISKaHEAVY_TEARDROP-SPOKED_ASTERISKaSIX_PETALLED_BLACK_AND_WHITE_FLORETTE
    aBLACK_FLORETTEaWHITE_FLORETTEaEIGHT_PETALLED_OUTLINED_BLACK_FLORETTEaCIRCLED_OPEN_CENTRE_EIGHT_POINTED_STAR
    aHEAVY_TEARDROP-SPOKED_PINWHEEL_ASTERISKaSNOWFLAKEaTIGHT_TRIFOLIATE_SNOWFLAKEaHEAVY_CHEVRON_SNOWFLAKEaSPARKLE
    aHEAVY_SPARKLEaBALLOON-SPOKED_ASTERISKaEIGHT_TEARDROP-SPOKED_PROPELLER_ASTERISK
    aHEAVY_EIGHT_TEARDROP-SPOKED_PROPELLER_ASTERISKaCROSS_MARKaSHADOWED_WHITE_CIRCLEaNEGATIVE_SQUARED_CROSS_MARK
    aLOWER_RIGHT_DROP-SHADOWED_WHITE_SQUAREaUPPER_RIGHT_DROP-SHADOWED_WHITE_SQUAREaLOWER_RIGHT_SHADOWED_WHITE_SQUARE
    aUPPER_RIGHT_SHADOWED_WHITE_SQUAREaBLACK_QUESTION_MARK_ORNAMENTaWHITE_QUESTION_MARK_ORNAMENT
    bEXCLAMATION_MARK_ORNAMENTaBLACK_DIAMOND_MINUS_WHITE_XaHEAVY_EXCLAMATION_MARK_SYMBOLaLIGHT_VERTICAL_BAR
    aMEDIUM_VERTICAL_BARaHEAVY_VERTICAL_BARbSINGLE_TURNED_COMMA_QUOTATION_MARK_ORNAMENT
    cCOMMA_QUOTATION_MARK_ORNAMENTbDOUBLE_TURNED_COMMA_QUOTATION_MARK_ORNAMENTcCOMMA_QUOTATION_MARK_ORNAMENT
    bLOW_SINGLE_COMMA_QUOTATION_MARK_ORNAMENTcDOUBLE_COMMA_QUOTATION_MARK_ORNAMENT
    aCURVED_STEM_PARAGRAPH_SIGN_ORNAMENTaHEAVY_EXCLAMATION_MARK_ORNAMENTbHEART_EXCLAMATION_MARK_ORNAMENTbBLACK_HEART
    aROTATED_HEAVY_BLACK_HEART_BULLETaFLORAL_HEARTaROTATED_FLORAL_HEART_BULLETaMEDIUM_LEFT_PARENTHESIS_ORNAMENT
    bRIGHT_PARENTHESIS_ORNAMENTbFLATTENED_LEFT_PARENTHESIS_ORNAMENTcRIGHT_PARENTHESIS_ORNAMENT
    bLEFT-POINTING_ANGLE_BRACKET_ORNAMENTbRIGHT-POINTING_ANGLE_BRACKET_ORNAMENT
    aHEAVY_LEFT-POINTING_ANGLE_QUOTATION_MARK_ORNAMENTbRIGHT-POINTING_ANGLE_QUOTATION_MARK_ORNAMENT
    bLEFT-POINTING_ANGLE_BRACKET_ORNAMENTbRIGHT-POINTING_ANGLE_BRACKET_ORNAMENT
    aLIGHT_LEFT_TORTOISE_SHELL_BRACKET_ORNAMENTbRIGHT_TORTOISE_SHELL_BRACKET_ORNAMENT
    aMEDIUM_LEFT_CURLY_BRACKET_ORNAMENTbRIGHT_CURLY_BRACKET_ORNAMENTaDINGBAT_NEGATIVE_CIRCLED_DIGIT_ONEeTWOeTHREE
    eFOUReFIVEeSIXeSEVENeEIGHTeNINEdNUMBER_TENbCIRCLED_SANS-SERIF_DIGIT_ONEeTWOeTHREEeFOUReFIVEeSIXeSEVENeEIGHTeNINE
    dNUMBER_TENbNEGATIVE_CIRCLED_SANS-SERIF_DIGIT_ONEfTWOfTHREEfFOURfFIVEfSIXfSEVENfEIGHTfNINEeNUMBER_TEN
    aHEAVY_WIDE-HEADED_RIGHTWARDS_ARROWbPLUS_SIGNbMINUS_SIGNbDIVISION_SIGNbSOUTH_EAST_ARROWbRIGHTWARDS_ARROW
    bNORTH_EAST_ARROWaDRAFTING_POINT_RIGHTWARDS_ARROWaHEAVY_ROUND-TIPPED_RIGHTWARDS_ARROW
    aTRIANGLE-HEADED_RIGHTWARDS_ARROWaHEAVY_TRIANGLE-HEADED_RIGHTWARDS_ARROWaDASHED_TRIANGLE-HEADED_RIGHTWARDS_ARROW
    aHEAVY_DASHED_TRIANGLE-HEADED_RIGHTWARDS_ARROWaBLACK_RIGHTWARDS_ARROWaTHREE-D_TOP-LIGHTED_RIGHTWARDS_ARROWHEAD
    bBOTTOM-LIGHTED_RIGHTWARDS_ARROWHEADaBLACK_RIGHTWARDS_ARROWHEAD
    aHEAVY_BLACK_CURVED_DOWNWARDS_AND_RIGHTWARDS_ARROWdUPWARDS_AND_RIGHTWARDS_ARROWaSQUAT_BLACK_RIGHTWARDS_ARROW
    aHEAVY_CONCAVE-POINTED_BLACK_RIGHTWARDS_ARROWaRIGHT-SHADED_WHITE_RIGHTWARDS_ARROW
    aLEFT-SHADED_WHITE_RIGHTWARDS_ARROWaBACK-TILTED_SHADOWED_WHITE_RIGHTWARDS_ARROW
    aFRONT-TILTED_SHADOWED_WHITE_RIGHTWARDS_ARROWaHEAVY_LOWER_RIGHT-SHADOWED_WHITE_RIGHTWARDS_ARROW
    bUPPER_RIGHT-SHADOWED_WHITE_RIGHTWARDS_ARROWaNOTCHED_LOWER_RIGHT-SHADOWED_WHITE_RIGHTWARDS_ARROWaCURLY_LOOP
    aNOTCHED_UPPER_RIGHT-SHADOWED_WHITE_RIGHTWARDS_ARROWaCIRCLED_HEAVY_WHITE_RIGHTWARDS_ARROW
    aWHITE-FEATHERED_RIGHTWARDS_ARROWaBLACK-FEATHERED_SOUTH_EAST_ARROWbRIGHTWARDS_ARROWbNORTH_EAST_ARROW
    aHEAVY_BLACK-FEATHERED_SOUTH_EAST_ARROWcRIGHTWARDS_ARROWcNORTH_EAST_ARROWaTEARDROP-BARBED_RIGHTWARDS_ARROW
    aHEAVY_TEARDROP-SHANKED_RIGHTWARDS_ARROWaWEDGE-TAILED_RIGHTWARDS_ARROWaHEAVY_WEDGE-TAILED_RIGHTWARDS_ARROW
    aOPEN-OUTLINED_RIGHTWARDS_ARROWaDOUBLE_CURLY_LOOPaTHREE_DIMENSIONAL_ANGLE
    aWHITE_TRIANGLE_CONTAINING_SMALL_WHITE_TRIANGLEaPERPENDICULARaOPEN_SUBSETbSUPERSETaLEFT_S-SHAPED_BAG_DELIMITER
    aRIGHT_S-SHAPED_BAG_DELIMITERaOR_WITH_DOT_INSIDEaREVERSE_SOLIDUS_PRECEDING_SUBSETaSUPERSET_PRECEDING_SOLIDUS
    aVERTICAL_BAR_WITH_HORIZONTAL_STROKEaMATHEMATICAL_RISING_DIAGONALaLONG_DIVISIONaMATHEMATICAL_FALLING_DIAGONAL
    aSQUARED_LOGICAL_ANDcORaWHITE_DIAMOND_WITH_CENTRED_DOTaAND_WITH_DOTaELEMENT_OF_OPENING_UPWARDS
    aLOWER_RIGHT_CORNER_WITH_DOTaUPPER_LEFT_CORNER_WITH_DOTaLEFT_OUTER_JOINaRIGHT_OUTER_JOINaFULL_OUTER_JOIN
    aLARGE_UP_TACKbDOWN_TACKaLEFT_AND_RIGHT_DOUBLE_TURNSTILEdTACKbMULTIMAPaLONG_RIGHT_TACKbLEFT_TACK
    aUP_TACK_WITH_CIRCLE_ABOVEaLOZENGE_DIVIDED_BY_HORIZONTAL_RULEaWHITE_CONCAVE-SIDED_DIAMONDdWITH_LEFTWARDS_TICK
    eRIGHTWARDS_TICKbSQUARE_WITH_LEFTWARDS_TICKdRIGHTWARDS_TICKaMATHEMATICAL_LEFT_WHITE_SQUARE_BRACKET
    bRIGHT_WHITE_SQUARE_BRACKETbLEFT_ANGLE_BRACKETbRIGHT_ANGLE_BRACKETbLEFT_DOUBLE_ANGLE_BRACKET
    bRIGHT_DOUBLE_ANGLE_BRACKETbLEFT_WHITE_TORTOISE_SHELL_BRACKETbRIGHT_WHITE_TORTOISE_SHELL_BRACKET
    bLEFT_FLATTENED_PARENTHESISbRIGHT_FLATTENED_PARENTHESISaUPWARDS_QUADRUPLE_ARROWaDOWNWARDS_QUADRUPLE_ARROW
    aANTICLOCKWISE_GAPPED_CIRCLE_ARROWaCLOCKWISE_GAPPED_CIRCLE_ARROWaRIGHT_ARROW_WITH_CIRCLED_PLUS
    aLONG_LEFTWARDS_ARROWbRIGHTWARDS_ARROWbLEFT_RIGHT_ARROWbLEFTWARDS_DOUBLE_ARROWbRIGHTWARDS_DOUBLE_ARROW
    bLEFT_RIGHT_DOUBLE_ARROWbLEFTWARDS_ARROW_FROM_BARbRIGHTWARDS_ARROW_FROM_BARbLEFTWARDS_DOUBLE_ARROW_FROM_BAR
    bRIGHTWARDS_DOUBLE_ARROW_FROM_BARcSQUIGGLE_ARROWaBRAILLE_PATTERN_BLANKcDOTS-1cDOTS-2cDOTS-12cDOTS-3cDOTS-13
    cDOTS-23cDOTS-123cDOTS-4cDOTS-14cDOTS-24cDOTS-124cDOTS-34cDOTS-134cDOTS-234cDOTS-1234cDOTS-5cDOTS-15cDOTS-25
    cDOTS-125cDOTS-35cDOTS-135cDOTS-235cDOTS-1235cDOTS-45cDOTS-145cDOTS-245cDOTS-1245cDOTS-345cDOTS-1345cDOTS-2345
    cDOTS-12345cDOTS-6cDOTS-16cDOTS-26cDOTS-126cDOTS-36cDOTS-136cDOTS-236cDOTS-1236cDOTS-46cDOTS-146cDOTS-246
    cDOTS-1246cDOTS-346cDOTS-1346cDOTS-2346cDOTS-12346cDOTS-56cDOTS-156cDOTS-256cDOTS-1256cDOTS-356cDOTS-1356
    cDOTS-2356cDOTS-12356cDOTS-456cDOTS-1456cDOTS-2456cDOTS-12456cDOTS-3456cDOTS-13456cDOTS-23456cDOTS-123456cDOTS-7
    cDOTS-17cDOTS-27cDOTS-127cDOTS-37cDOTS-137cDOTS-237cDOTS-1237cDOTS-47cDOTS-147cDOTS-247cDOTS-1247cDOTS-347
    cDOTS-1347cDOTS-2347cDOTS-12347cDOTS-57cDOTS-157cDOTS-257cDOTS-1257cDOTS-357cDOTS-1357cDOTS-2357cDOTS-12357
    cDOTS-457cDOTS-1457cDOTS-2457cDOTS-12457cDOTS-3457cDOTS-13457cDOTS-23457cDOTS-123457cDOTS-67cDOTS-167cDOTS-267
    cDOTS-1267cDOTS-367cDOTS-1367cDOTS-2367cDOTS-12367cDOTS-467cDOTS-1467cDOTS-2467cDOTS-12467cDOTS-3467cDOTS-13467
    cDOTS-23467cDOTS-123467cDOTS-567cDOTS-1567cDOTS-2567cDOTS-12567cDOTS-3567cDOTS-13567cDOTS-23567cDOTS-123567
    cDOTS-4567cDOTS-14567cDOTS-24567cDOTS-124567cDOTS-34567cDOTS-134567cDOTS-234567cDOTS-1234567cDOTS-8cDOTS-18
    cDOTS-28cDOTS-128cDOTS-38cDOTS-138cDOTS-238cDOTS-1238cDOTS-48cDOTS-148cDOTS-248cDOTS-1248cDOTS-348cDOTS-1348
    cDOTS-2348cDOTS-12348cDOTS-58cDOTS-158cDOTS-258cDOTS-1258cDOTS-358cDOTS-1358cDOTS-2358cDOTS-12358cDOTS-458
    cDOTS-1458cDOTS-2458cDOTS-12458cDOTS-3458cDOTS-13458cDOTS-23458cDOTS-123458cDOTS-68cDOTS-168cDOTS-268cDOTS-1268
    cDOTS-368cDOTS-1368cDOTS-2368cDOTS-12368cDOTS-468cDOTS-1468cDOTS-2468cDOTS-12468cDOTS-3468cDOTS-13468cDOTS-23468
    cDOTS-123468cDOTS-568cDOTS-1568cDOTS-2568cDOTS-12568cDOTS-3568cDOTS-13568cDOTS-23568cDOTS-123568cDOTS-4568
    cDOTS-14568cDOTS-24568cDOTS-124568cDOTS-34568cDOTS-134568cDOTS-234568cDOTS-1234568cDOTS-78cDOTS-178cDOTS-278
    cDOTS-1278cDOTS-378cDOTS-1378cDOTS-2378cDOTS-12378cDOTS-478cDOTS-1478cDOTS-2478cDOTS-12478cDOTS-3478cDOTS-13478
    cDOTS-23478cDOTS-123478cDOTS-578cDOTS-1578cDOTS-2578cDOTS-12578cDOTS-3578cDOTS-13578cDOTS-23578cDOTS-123578
    cDOTS-4578cDOTS-14578cDOTS-24578cDOTS-124578cDOTS-34578cDOTS-134578cDOTS-234578cDOTS-1234578cDOTS-678cDOTS-1678
    cDOTS-2678cDOTS-12678cDOTS-3678cDOTS-13678cDOTS-23678cDOTS-123678cDOTS-4678cDOTS-14678cDOTS-24678cDOTS-124678
    cDOTS-34678cDOTS-134678cDOTS-234678cDOTS-1234678cDOTS-5678cDOTS-15678cDOTS-25678cDOTS-125678cDOTS-35678
    cDOTS-135678cDOTS-235678cDOTS-1235678cDOTS-45678cDOTS-145678cDOTS-245678cDOTS-1245678cDOTS-345678cDOTS-1345678
    cDOTS-2345678cDOTS-12345678aRIGHTWARDS_TWO-HEADED_ARROW_WITH_VERTICAL_STROKEeDOUBLE_VERTICAL_STROKE
    aLEFTWARDS_DOUBLE_ARROW_WITH_VERTICAL_STROKEaRIGHTWARDS_DOUBLE_ARROW_WITH_VERTICAL_STROKE
    aLEFT_RIGHT_DOUBLE_ARROW_WITH_VERTICAL_STROKEaRIGHTWARDS_TWO-HEADED_ARROW_FROM_BAR
    aLEFTWARDS_DOUBLE_ARROW_FROM_BARaRIGHTWARDS_DOUBLE_ARROW_FROM_BARaDOWNWARDS_ARROW_WITH_HORIZONTAL_STROKE
    aUPWARDS_ARROW_WITH_HORIZONTAL_STROKEbTRIPLE_ARROWaDOWNWARDS_TRIPLE_ARROWaLEFTWARDS_DOUBLE_DASH_ARROW
    aRIGHTWARDS_DOUBLE_DASH_ARROWaLEFTWARDS_TRIPLE_DASH_ARROWaRIGHTWARDS_TRIPLE_DASH_ARROW
    bTWO-HEADED_TRIPLE_DASH_ARROWbARROW_WITH_DOTTED_STEMaUPWARDS_ARROW_TO_BARaDOWNWARDS_ARROW_TO_BAR
    aRIGHTWARDS_ARROW_WITH_TAIL_WITH_VERTICAL_STROKEfDOUBLE_VERTICAL_STROKEbTWO-HEADED_ARROW_WITH_TAIL
    fWITH_VERTICAL_STROKEgDOUBLE_VERTICAL_STROKEaLEFTWARDS_ARROW-TAILaRIGHTWARDS_ARROW-TAIL
    aLEFTWARDS_DOUBLE_ARROW-TAILaRIGHTWARDS_DOUBLE_ARROW-TAILaLEFTWARDS_ARROW_TO_BLACK_DIAMOND
    aRIGHTWARDS_ARROW_TO_BLACK_DIAMONDaLEFTWARDS_ARROW_FROM_BAR_TO_BLACK_DIAMOND
    aRIGHTWARDS_ARROW_FROM_BAR_TO_BLACK_DIAMONDaNORTH_WEST_AND_SOUTH_EAST_ARROWbEAST_AND_SOUTH_WEST_ARROW
    bWEST_ARROW_WITH_HOOKbEAST_ARROW_WITH_HOOKaSOUTH_EAST_ARROW_WITH_HOOKbWEST_ARROW_WITH_HOOK
    aNORTH_WEST_ARROW_AND_NORTH_EAST_ARROWbEAST_ARROW_AND_SOUTH_EAST_ARROWaSOUTH_EAST_ARROW_AND_SOUTH_WEST_ARROW
    bWEST_ARROW_AND_NORTH_WEST_ARROWaRISING_DIAGONAL_CROSSING_FALLING_DIAGONAL
    aFALLING_DIAGONAL_CROSSING_RISING_DIAGONALaSOUTH_EAST_ARROW_CROSSING_NORTH_EAST_ARROW
    aNORTH_EAST_ARROW_CROSSING_SOUTH_EAST_ARROWaFALLING_DIAGONAL_CROSSING_NORTH_EAST_ARROW
    aRISING_DIAGONAL_CROSSING_SOUTH_EAST_ARROWaNORTH_EAST_ARROW_CROSSING_NORTH_WEST_ARROW
    bWEST_ARROW_CROSSING_NORTH_EAST_ARROWaWAVE_ARROW_POINTING_DIRECTLY_RIGHT
    aARROW_POINTING_RIGHTWARDS_THEN_CURVING_UPWARDSfDOWNWARDScDOWNWARDS_THEN_CURVING_LEFTWARDSfRIGHTWARDS
    aRIGHT-SIDE_ARC_CLOCKWISE_ARROWaLEFT-SIDE_ARC_ANTICLOCKWISE_ARROWaTOP_ARC_ANTICLOCKWISE_ARROW
    aBOTTOM_ARC_ANTICLOCKWISE_ARROWaTOP_ARC_CLOCKWISE_ARROW_WITH_MINUScANTICLOCKWISE_ARROW_WITH_PLUS
    aLOWER_RIGHT_SEMICIRCULAR_CLOCKWISE_ARROWbLEFT_SEMICIRCULAR_ANTICLOCKWISE_ARROW
    aANTICLOCKWISE_CLOSED_CIRCLE_ARROWaCLOCKWISE_CLOSED_CIRCLE_ARROWaRIGHTWARDS_ARROW_ABOVE_SHORT_LEFTWARDS_ARROW
    aLEFTWARDS_ARROW_ABOVE_SHORT_RIGHTWARDS_ARROWaSHORT_RIGHTWARDS_ARROW_ABOVE_LEFTWARDS_ARROW
    aRIGHTWARDS_ARROW_WITH_PLUS_BELOWaLEFTWARDS_ARROW_WITH_PLUS_BELOWaRIGHTWARDS_ARROW_THROUGH_X
    aLEFT_RIGHT_ARROW_THROUGH_SMALL_CIRCLEaUPWARDS_TWO-HEADED_ARROW_FROM_SMALL_CIRCLE
    aLEFT_BARB_UP_RIGHT_BARB_DOWN_HARPOONcDOWN_RIGHT_BARB_UP_HARPOONaUP_BARB_RIGHT_DOWN_BARB_LEFT_HARPOON
    cLEFT_DOWN_BARB_RIGHT_HARPOONaLEFT_BARB_UP_RIGHT_BARB_UP_HARPOONaUP_BARB_RIGHT_DOWN_BARB_RIGHT_HARPOON
    aLEFT_BARB_DOWN_RIGHT_BARB_DOWN_HARPOONaUP_BARB_LEFT_DOWN_BARB_LEFT_HARPOON
    aLEFTWARDS_HARPOON_WITH_BARB_UP_TO_BARaRIGHTWARDS_HARPOON_WITH_BARB_UP_TO_BAR
    aUPWARDS_HARPOON_WITH_BARB_RIGHT_TO_BARaDOWNWARDS_HARPOON_WITH_BARB_RIGHT_TO_BAR
    aLEFTWARDS_HARPOON_WITH_BARB_DOWN_TO_BARaRIGHTWARDS_HARPOON_WITH_BARB_DOWN_TO_BAR
    aUPWARDS_HARPOON_WITH_BARB_LEFT_TO_BARaDOWNWARDS_HARPOON_WITH_BARB_LEFT_TO_BAR
    aLEFTWARDS_HARPOON_WITH_BARB_UP_FROM_BARaRIGHTWARDS_HARPOON_WITH_BARB_UP_FROM_BAR
    aUPWARDS_HARPOON_WITH_BARB_RIGHT_FROM_BARaDOWNWARDS_HARPOON_WITH_BARB_RIGHT_FROM_BAR
    aLEFTWARDS_HARPOON_WITH_BARB_DOWN_FROM_BARaRIGHTWARDS_HARPOON_WITH_BARB_DOWN_FROM_BAR
    aUPWARDS_HARPOON_WITH_BARB_LEFT_FROM_BARaDOWNWARDS_HARPOON_WITH_BARB_LEFT_FROM_BAR
    aLEFTWARDS_HARPOON_WITH_BARB_UP_ABOVE_LEFTWARDS_HARPOON_WITH_BARB_DOWN
    aUPWARDS_HARPOON_WITH_BARB_LEFT_BESIDE_UPWARDS_HARPOON_WITH_BARB_RIGHT
    aRIGHTWARDS_HARPOON_WITH_BARB_UP_ABOVE_RIGHTWARDS_HARPOON_WITH_BARB_DOWN
    aDOWNWARDS_HARPOON_WITH_BARB_LEFT_BESIDE_DOWNWARDS_HARPOON_WITH_BARB_RIGHT
    aLEFTWARDS_HARPOON_WITH_BARB_UP_ABOVE_RIGHTWARDS_HARPOON_WITH_BARB_UP
    eDOWN_ABOVE_RIGHTWARDS_HARPOON_WITH_BARB_DOWN
    aRIGHTWARDS_HARPOON_WITH_BARB_UP_ABOVE_LEFTWARDS_HARPOON_WITH_BARB_UP
    eDOWN_ABOVE_LEFTWARDS_HARPOON_WITH_BARB_DOWNaLEFTWARDS_HARPOON_WITH_BARB_UP_ABOVE_LONG_DASHeDOWN_BELOW_LONG_DASH
    aRIGHTWARDS_HARPOON_WITH_BARB_UP_ABOVE_LONG_DASHeDOWN_BELOW_LONG_DASH
    aUPWARDS_HARPOON_WITH_BARB_LEFT_BESIDE_DOWNWARDS_HARPOON_WITH_BARB_RIGHT
    aDOWNWARDS_HARPOON_WITH_BARB_LEFT_BESIDE_UPWARDS_HARPOON_WITH_BARB_RIGHTaRIGHT_DOUBLE_ARROW_WITH_ROUNDED_HEAD
    aEQUALS_SIGN_ABOVE_RIGHTWARDS_ARROWaTILDE_OPERATOR_ABOVE_RIGHTWARDS_ARROWaLEFTWARDS_ARROW_ABOVE_TILDE_OPERATOR
    aRIGHTWARDS_ARROW_ABOVE_TILDE_OPERATORdALMOST_EQUAL_TOaLESS-THAN_ABOVE_LEFTWARDS_ARROW
    aLEFTWARDS_ARROW_THROUGH_LESS-THANaGREATER-THAN_ABOVE_RIGHTWARDS_ARROWaSUBSET_ABOVE_RIGHTWARDS_ARROW
    aLEFTWARDS_ARROW_THROUGH_SUBSETaSUPERSET_ABOVE_LEFTWARDS_ARROWaLEFT_FISH_TAILaRIGHT_FISH_TAILaUP_FISH_TAIL
    aDOWN_FISH_TAILaTRIPLE_VERTICAL_BAR_DELIMITERaZ_NOTATION_SPOTcTYPE_COLONaLEFT_WHITE_CURLY_BRACKET
    aRIGHT_WHITE_CURLY_BRACKETaLEFT_WHITE_PARENTHESISaRIGHT_WHITE_PARENTHESISaZ_NOTATION_LEFT_IMAGE_BRACKET
    cRIGHT_IMAGE_BRACKETcLEFT_BINDING_BRACKETcRIGHT_BINDING_BRACKETaLEFT_SQUARE_BRACKET_WITH_UNDERBAR
    aRIGHT_SQUARE_BRACKET_WITH_UNDERBARaLEFT_SQUARE_BRACKET_WITH_TICK_IN_TOP_CORNER
    aRIGHT_SQUARE_BRACKET_WITH_TICK_IN_BOTTOM_CORNERaLEFT_SQUARE_BRACKET_WITH_TICK_IN_BOTTOM_CORNER
    aRIGHT_SQUARE_BRACKET_WITH_TICK_IN_TOP_CORNERaLEFT_ANGLE_BRACKET_WITH_DOTaRIGHT_ANGLE_BRACKET_WITH_DOT
    aLEFT_ARC_LESS-THAN_BRACKETaRIGHT_ARC_GREATER-THAN_BRACKETaDOUBLE_LEFT_ARC_GREATER-THAN_BRACKET
    bRIGHT_ARC_LESS-THAN_BRACKETaLEFT_BLACK_TORTOISE_SHELL_BRACKETaRIGHT_BLACK_TORTOISE_SHELL_BRACKETaDOTTED_FENCE
    aVERTICAL_ZIGZAG_LINEaMEASURED_ANGLE_OPENING_LEFTaRIGHT_ANGLE_VARIANT_WITH_SQUAREaMEASURED_RIGHT_ANGLE_WITH_DOT
    aANGLE_WITH_S_INSIDEaACUTE_ANGLEaSPHERICAL_ANGLE_OPENING_LEFTdUPaTURNED_ANGLEaREVERSED_ANGLEaANGLE_WITH_UNDERBAR
    aREVERSED_ANGLE_WITH_UNDERBARaOBLIQUE_ANGLE_OPENING_UPdDOWN
    aMEASURED_ANGLE_WITH_OPEN_ARM_ENDING_IN_ARROW_POINTING_UP_AND_RIGHTlLEFTjDOWN_AND_RIGHTlLEFTjRIGHT_AND_UP
    jLEFT_AND_UPjRIGHT_AND_DOWNjLEFT_AND_DOWNaREVERSED_EMPTY_SETaEMPTY_SET_WITH_OVERBARdSMALL_CIRCLE_ABOVE
    dRIGHT_ARROW_ABOVEdLEFT_ARROW_ABOVEaCIRCLE_WITH_HORIZONTAL_BARaCIRCLED_VERTICAL_BARbPARALLELbREVERSE_SOLIDUS
    bPERPENDICULARaCIRCLE_DIVIDED_BY_HORIZONTAL_BAR_AND_TOP_HALF_DIVIDED_BY_VERTICAL_BARbWITH_SUPERIMPOSED_X
    aCIRCLED_ANTICLOCKWISE-ROTATED_DIVISION_SIGNaUP_ARROW_THROUGH_CIRCLEaCIRCLED_WHITE_BULLETbBULLETbLESS-THAN
    bGREATER-THANaCIRCLE_WITH_SMALL_CIRCLE_TO_THE_RIGHTcTWO_HORIZONTAL_STROKES_TO_THE_RIGHT
    aSQUARED_RISING_DIAGONAL_SLASHbFALLING_DIAGONAL_SLASHbASTERISKbSMALL_CIRCLEbSQUAREaTWO_JOINED_SQUARES
    aTRIANGLE_WITH_DOT_ABOVEcUNDERBARaS_IN_TRIANGLEaTRIANGLE_WITH_SERIFS_AT_BOTTOM
    aRIGHT_TRIANGLE_ABOVE_LEFT_TRIANGLEaLEFT_TRIANGLE_BESIDE_VERTICAL_BARaVERTICAL_BAR_BESIDE_RIGHT_TRIANGLE
    aBOWTIE_WITH_LEFT_HALF_BLACKcRIGHT_HALF_BLACKaBLACK_BOWTIEaTIMES_WITH_LEFT_HALF_BLACKcRIGHT_HALF_BLACK
    aWHITE_HOURGLASSaBLACK_HOURGLASSaLEFT_WIGGLY_FENCEaRIGHT_WIGGLY_FENCEaLEFT_DOUBLE_WIGGLY_FENCE
    aRIGHT_DOUBLE_WIGGLY_FENCEaINCOMPLETE_INFINITYaTIE_OVER_INFINITYaINFINITY_NEGATED_WITH_VERTICAL_BAR
    aDOUBLE-ENDED_MULTIMAPaSQUARE_WITH_CONTOURED_OUTLINEaINCREASES_ASaSHUFFLE_PRODUCT
    aEQUALS_SIGN_AND_SLANTED_PARALLELfWITH_TILDE_ABOVEaIDENTICAL_TO_AND_SLANTED_PARALLELaGLEICH_STARKaTHERMODYNAMIC
    aDOWN-POINTING_TRIANGLE_WITH_LEFT_HALF_BLACKdRIGHT_HALF_BLACKaBLACK_DIAMOND_WITH_DOWN_ARROWbLOZENGE
    aWHITE_CIRCLE_WITH_DOWN_ARROWaBLACK_CIRCLE_WITH_DOWN_ARROWaERROR-BARRED_WHITE_SQUAREbBLACK_SQUAREbWHITE_DIAMOND
    bBLACK_DIAMONDbWHITE_CIRCLEbBLACK_CIRCLEaRULE-DELAYEDaREVERSE_SOLIDUS_OPERATORaSOLIDUS_WITH_OVERBAR
    aREVERSE_SOLIDUS_WITH_HORIZONTAL_STROKEaBIG_SOLIDUSbREVERSE_SOLIDUSaDOUBLE_PLUSaTRIPLE_PLUS
    aLEFT-POINTING_CURVED_ANGLE_BRACKETaRIGHT-POINTING_CURVED_ANGLE_BRACKETaTINYaMINYaN-ARY_CIRCLED_DOT_OPERATOR
    cPLUS_OPERATORcTIMES_OPERATORbUNION_OPERATOR_WITH_DOTePLUSbSQUARE_INTERSECTION_OPERATORcUNION_OPERATOR
    aTWO_LOGICAL_AND_OPERATORcOR_OPERATORaN-ARY_TIMES_OPERATORaMODULO_TWO_SUMaSUMMATION_WITH_INTEGRAL
    aQUADRUPLE_INTEGRAL_OPERATORaFINITE_PART_INTEGRALaINTEGRAL_WITH_DOUBLE_STROKEbAVERAGE_WITH_SLASH
    aCIRCULATION_FUNCTIONaANTICLOCKWISE_INTEGRATIONaLINE_INTEGRATION_WITH_RECTANGULAR_PATH_AROUND_POLE
    dSEMICIRCULAR_PATH_AROUND_POLEcNOT_INCLUDING_THE_POLEaINTEGRAL_AROUND_A_POINT_OPERATOR
    aQUATERNION_INTEGRAL_OPERATORaINTEGRAL_WITH_LEFTWARDS_ARROW_WITH_HOOKcTIMES_SIGNcINTERSECTIONcUNIONcOVERBAR
    cUNDERBARaJOINaLARGE_LEFT_TRIANGLE_OPERATORaZ_NOTATION_SCHEMA_COMPOSITIONdPIPINGdPROJECTION
    aPLUS_SIGN_WITH_SMALL_CIRCLE_ABOVEdCIRCUMFLEX_ACCENT_ABOVEdTILDE_ABOVEdDOT_BELOWdTILDE_BELOWdSUBSCRIPT_TWO
    dBLACK_TRIANGLEaMINUS_SIGN_WITH_COMMA_ABOVEdDOT_BELOWdFALLING_DOTSdRISING_DOTSaPLUS_SIGN_IN_LEFT_HALF_CIRCLE
    dRIGHT_HALF_CIRCLEaVECTOR_OR_CROSS_PRODUCTaMULTIPLICATION_SIGN_WITH_DOT_ABOVEdUNDERBAR
    aSEMIDIRECT_PRODUCT_WITH_BOTTOM_CLOSEDaSMASH_PRODUCTaMULTIPLICATION_SIGN_IN_LEFT_HALF_CIRCLEdRIGHT_HALF_CIRCLE
    aCIRCLED_MULTIPLICATION_SIGN_WITH_CIRCUMFLEX_ACCENTaMULTIPLICATION_SIGN_IN_DOUBLE_CIRCLEaCIRCLED_DIVISION_SIGN
    aPLUS_SIGN_IN_TRIANGLEaMINUS_SIGN_IN_TRIANGLEaMULTIPLICATION_SIGN_IN_TRIANGLEaINTERIOR_PRODUCT
    aRIGHTHAND_INTERIOR_PRODUCTaZ_NOTATION_RELATIONAL_COMPOSITIONaAMALGAMATION_OR_COPRODUCTaINTERSECTION_WITH_DOT
    aUNION_WITH_MINUS_SIGNcOVERBARaINTERSECTION_WITH_OVERBARcLOGICAL_ANDaUNION_WITH_LOGICAL_ORbABOVE_INTERSECTION
    aINTERSECTION_ABOVE_UNIONaUNION_ABOVE_BAR_ABOVE_INTERSECTIONaINTERSECTION_ABOVE_BAR_ABOVE_UNION
    aUNION_BESIDE_AND_JOINED_WITH_UNIONaINTERSECTION_BESIDE_AND_JOINED_WITH_INTERSECTIONaCLOSED_UNION_WITH_SERIFS
    bINTERSECTION_WITH_SERIFSaDOUBLE_SQUARE_INTERSECTIONcUNIONaCLOSED_UNION_WITH_SERIFS_AND_SMASH_PRODUCT
    aLOGICAL_AND_WITH_DOT_ABOVEbOR_WITH_DOT_ABOVEaDOUBLE_LOGICAL_ANDcORaTWO_INTERSECTING_LOGICAL_ANDdOR
    aSLOPING_LARGE_ORcANDaLOGICAL_OR_OVERLAPPING_LOGICAL_ANDbAND_WITH_MIDDLE_STEMbOR_WITH_MIDDLE_STEM
    bAND_WITH_HORIZONTAL_DASHbOR_WITH_HORIZONTAL_DASHbAND_WITH_DOUBLE_OVERBARdUNDERBARdDOUBLE_UNDERBAR
    aSMALL_VEE_WITH_UNDERBARaLOGICAL_OR_WITH_DOUBLE_OVERBAReUNDERBARaZ_NOTATION_DOMAIN_ANTIRESTRICTION
    cRANGE_ANTIRESTRICTIONaEQUALS_SIGN_WITH_DOT_BELOWaIDENTICAL_WITH_DOT_ABOVE
    aTRIPLE_HORIZONTAL_BAR_WITH_DOUBLE_VERTICAL_STROKEeTRIPLE_VERTICAL_STROKEaTILDE_OPERATOR_WITH_DOT_ABOVE
    dRISING_DOTSaSIMILAR_MINUS_SIMILARaCONGRUENT_WITH_DOT_ABOVEaEQUALS_WITH_ASTERISK
    aALMOST_EQUAL_TO_WITH_CIRCUMFLEX_ACCENTaAPPROXIMATELY_EQUAL_OR_EQUAL_TOaEQUALS_SIGN_ABOVE_PLUS_SIGN
    aPLUS_SIGN_ABOVE_EQUALS_SIGNaEQUALS_SIGN_ABOVE_TILDE_OPERATORaDOUBLE_COLON_EQUALaTWO_CONSECUTIVE_EQUALS_SIGNS
    aTHREE_CONSECUTIVE_EQUALS_SIGNSaEQUALS_SIGN_WITH_TWO_DOTS_ABOVE_AND_TWO_DOTS_BELOW
    aEQUIVALENT_WITH_FOUR_DOTS_ABOVEaLESS-THAN_WITH_CIRCLE_INSIDEaGREATER-THAN_WITH_CIRCLE_INSIDE
    aLESS-THAN_WITH_QUESTION_MARK_ABOVEaGREATER-THAN_WITH_QUESTION_MARK_ABOVEaLESS-THAN_OR_SLANTED_EQUAL_TO
    aGREATER-THAN_OR_SLANTED_EQUAL_TOaLESS-THAN_OR_SLANTED_EQUAL_TO_WITH_DOT_INSIDE
    aGREATER-THAN_OR_SLANTED_EQUAL_TO_WITH_DOT_INSIDEaLESS-THAN_OR_SLANTED_EQUAL_TO_WITH_DOT_ABOVE
    aGREATER-THAN_OR_SLANTED_EQUAL_TO_WITH_DOT_ABOVEaLESS-THAN_OR_SLANTED_EQUAL_TO_WITH_DOT_ABOVE_RIGHT
    aGREATER-THAN_OR_SLANTED_EQUAL_TO_WITH_DOT_ABOVE_LEFTaLESS-THAN_OR_APPROXIMATEaGREATER-THAN_OR_APPROXIMATE
    aLESS-THAN_AND_SINGLE-LINE_NOT_EQUAL_TOaGREATER-THAN_AND_SINGLE-LINE_NOT_EQUAL_TOaLESS-THAN_AND_NOT_APPROXIMATE
    aGREATER-THAN_AND_NOT_APPROXIMATEaLESS-THAN_ABOVE_DOUBLE-LINE_EQUAL_ABOVE_GREATER-THAN
    aGREATER-THAN_ABOVE_DOUBLE-LINE_EQUAL_ABOVE_LESS-THANaLESS-THAN_ABOVE_SIMILAR_OR_EQUAL
    aGREATER-THAN_ABOVE_SIMILAR_OR_EQUALaLESS-THAN_ABOVE_SIMILAR_ABOVE_GREATER-THAN
    aGREATER-THAN_ABOVE_SIMILAR_ABOVE_LESS-THANaLESS-THAN_ABOVE_GREATER-THAN_ABOVE_DOUBLE-LINE_EQUAL
    aGREATER-THAN_ABOVE_LESS-THAN_ABOVE_DOUBLE-LINE_EQUAL
    aLESS-THAN_ABOVE_SLANTED_EQUAL_ABOVE_GREATER-THAN_ABOVE_SLANTED_EQUAL
    aGREATER-THAN_ABOVE_SLANTED_EQUAL_ABOVE_LESS-THAN_ABOVE_SLANTED_EQUALaSLANTED_EQUAL_TO_OR_LESS-THANeGREATER-THAN
    eLESS-THAN_WITH_DOT_INSIDEeGREATER-THAN_WITH_DOT_INSIDEaDOUBLE-LINE_EQUAL_TO_OR_LESS-THANeGREATER-THAN
    bSLANTED_EQUAL_TO_OR_LESS-THANfGREATER-THANaSIMILAR_OR_LESS-THANcGREATER-THANbABOVE_LESS-THAN_ABOVE_EQUALS_SIGN
    cGREATER-THAN_ABOVE_EQUALS_SIGNaDOUBLE_NESTED_LESS-THANcGREATER-THANcLESS-THAN_WITH_UNDERBAR
    aGREATER-THAN_OVERLAPPING_LESS-THANbBESIDE_LESS-THANaLESS-THAN_CLOSED_BY_CURVEaGREATER-THAN_CLOSED_BY_CURVE
    aLESS-THAN_CLOSED_BY_CURVE_ABOVE_SLANTED_EQUALaGREATER-THAN_CLOSED_BY_CURVE_ABOVE_SLANTED_EQUALaSMALLER_THAN
    aLARGER_THANaSMALLER_THAN_OR_EQUAL_TOaLARGER_THAN_OR_EQUAL_TOaEQUALS_SIGN_WITH_BUMPY_ABOVE
    aPRECEDES_ABOVE_SINGLE-LINE_EQUALS_SIGNaSUCCEEDS_ABOVE_SINGLE-LINE_EQUALS_SIGN
    aPRECEDES_ABOVE_SINGLE-LINE_NOT_EQUAL_TOaSUCCEEDS_ABOVE_SINGLE-LINE_NOT_EQUAL_TOaPRECEDES_ABOVE_EQUALS_SIGN
    aSUCCEEDS_ABOVE_EQUALS_SIGNaPRECEDES_ABOVE_NOT_EQUAL_TOaSUCCEEDS_ABOVE_NOT_EQUAL_TO
    aPRECEDES_ABOVE_ALMOST_EQUAL_TOaSUCCEEDS_ABOVE_ALMOST_EQUAL_TOaPRECEDES_ABOVE_NOT_ALMOST_EQUAL_TO
    aSUCCEEDS_ABOVE_NOT_ALMOST_EQUAL_TOaDOUBLE_PRECEDESbSUCCEEDSaSUBSET_WITH_DOTaSUPERSET_WITH_DOT
    aSUBSET_WITH_PLUS_SIGN_BELOWaSUPERSET_WITH_PLUS_SIGN_BELOWaSUBSET_WITH_MULTIPLICATION_SIGN_BELOW
    aSUPERSET_WITH_MULTIPLICATION_SIGN_BELOWaSUBSET_OF_OR_EQUAL_TO_WITH_DOT_ABOVE
    aSUPERSET_OF_OR_EQUAL_TO_WITH_DOT_ABOVEaSUBSET_OF_ABOVE_EQUALS_SIGNaSUPERSET_OF_ABOVE_EQUALS_SIGN
    aSUBSET_OF_ABOVE_TILDE_OPERATORaSUPERSET_OF_ABOVE_TILDE_OPERATORaSUBSET_OF_ABOVE_ALMOST_EQUAL_TO
    aSUPERSET_OF_ABOVE_ALMOST_EQUAL_TOaSUBSET_OF_ABOVE_NOT_EQUAL_TOaSUPERSET_OF_ABOVE_NOT_EQUAL_TO
    aSQUARE_LEFT_OPEN_BOX_OPERATORbRIGHT_OPEN_BOX_OPERATORaCLOSED_SUBSETbSUPERSETbSUBSET_OR_EQUAL_TO
    bSUPERSET_OR_EQUAL_TOaSUBSET_ABOVE_SUPERSETaSUPERSET_ABOVE_SUBSETaSUBSET_ABOVE_SUBSETaSUPERSET_ABOVE_SUPERSET
    bBESIDE_SUBSETcAND_JOINED_BY_DASH_WITH_SUBSETaELEMENT_OF_OPENING_DOWNWARDSaPITCHFORK_WITH_TEE_TOP
    aTRANSVERSAL_INTERSECTIONaFORKINGaNONFORKINGaSHORT_LEFT_TACKbDOWN_TACKbUP_TACKaPERPENDICULAR_WITH_S
    aVERTICAL_BAR_TRIPLE_RIGHT_TURNSTILEaDOUBLE_VERTICAL_BAR_LEFT_TURNSTILEaVERTICAL_BAR_DOUBLE_LEFT_TURNSTILE
    aDOUBLE_VERTICAL_BAR_DOUBLE_LEFT_TURNSTILEaLONG_DASH_FROM_LEFT_MEMBER_OF_DOUBLE_VERTICAL
    aSHORT_DOWN_TACK_WITH_OVERBARbUP_TACK_WITH_UNDERBARdABOVE_SHORT_DOWN_TACKaDOUBLE_DOWN_TACKbUP_TACK
    bSTROKE_NOT_SIGNaREVERSED_DOUBLE_STROKE_NOT_SIGNaDOES_NOT_DIVIDE_WITH_REVERSED_NEGATION_SLASH
    aVERTICAL_LINE_WITH_CIRCLE_ABOVEeBELOWaDOWN_TACK_WITH_CIRCLE_BELOWaPARALLEL_WITH_HORIZONTAL_STROKE
    cTILDE_OPERATORaTRIPLE_VERTICAL_BAR_BINARY_RELATIONdWITH_HORIZONTAL_STROKEbCOLON_OPERATORbNESTED_LESS-THAN
    cGREATER-THANaDOUBLE-LINE_SLANTED_LESS-THAN_OR_EQUAL_TOcGREATER-THAN_OR_EQUAL_TOaTRIPLE_SOLIDUS_BINARY_RELATION
    aLARGE_TRIPLE_VERTICAL_BAR_OPERATORaDOUBLE_SOLIDUS_OPERATORaWHITE_VERTICAL_BARaN-ARY_WHITE_VERTICAL_BAR
    aNORTH_EAST_WHITE_ARROWbWEST_WHITE_ARROWaSOUTH_EAST_WHITE_ARROWbWEST_WHITE_ARROWaLEFT_RIGHT_WHITE_ARROW
    aLEFTWARDS_BLACK_ARROWaUPWARDS_BLACK_ARROWaDOWNWARDS_BLACK_ARROWaNORTH_EAST_BLACK_ARROWbWEST_BLACK_ARROW
    aSOUTH_EAST_BLACK_ARROWbWEST_BLACK_ARROWaLEFT_RIGHT_BLACK_ARROWaUP_DOWN_BLACK_ARROW
    aRIGHTWARDS_ARROW_WITH_TIP_DOWNWARDSeUPWARDSaLEFTWARDS_ARROW_WITH_TIP_DOWNWARDSeUPWARDS
    aSQUARE_WITH_TOP_HALF_BLACKcBOTTOM_HALF_BLACKcUPPER_RIGHT_DIAGONAL_HALF_BLACKcLOWER_LEFT_DIAGONAL_HALF_BLACK
    aDIAMOND_WITH_LEFT_HALF_BLACKcRIGHT_HALF_BLACKcTOP_HALF_BLACKcBOTTOM_HALF_BLACKaDOTTED_SQUAREaBLACK_LARGE_SQUARE
    aWHITE_LARGE_SQUAREaBLACK_VERY_SMALL_SQUAREaWHITE_VERY_SMALL_SQUAREaBLACK_PENTAGONaWHITE_PENTAGONbHEXAGON
    aBLACK_HEXAGONaHORIZONTAL_BLACK_HEXAGONaBLACK_LARGE_CIRCLEbMEDIUM_DIAMONDaWHITE_MEDIUM_DIAMOND
    aBLACK_MEDIUM_LOZENGEaWHITE_MEDIUM_LOZENGEaBLACK_SMALL_DIAMONDcLOZENGEaWHITE_SMALL_LOZENGE
    aBLACK_HORIZONTAL_ELLIPSEaWHITE_HORIZONTAL_ELLIPSEaBLACK_VERTICAL_ELLIPSEaWHITE_VERTICAL_ELLIPSE
    aLEFT_ARROW_WITH_SMALL_CIRCLEaTHREE_LEFTWARDS_ARROWSaLEFT_ARROW_WITH_CIRCLED_PLUSaLONG_LEFTWARDS_SQUIGGLE_ARROW
    aLEFTWARDS_TWO-HEADED_ARROW_WITH_VERTICAL_STROKEeDOUBLE_VERTICAL_STROKEdFROM_BARcTRIPLE_DASH_ARROW
    bARROW_WITH_DOTTED_STEMdTAIL_WITH_VERTICAL_STROKEfDOUBLE_VERTICAL_STROKEbTWO-HEADED_ARROW_WITH_TAIL
    fWITH_VERTICAL_STROKEgDOUBLE_VERTICAL_STROKEbARROW_THROUGH_XaWAVE_ARROW_POINTING_DIRECTLY_LEFT
    aEQUALS_SIGN_ABOVE_LEFTWARDS_ARROWaREVERSE_TILDE_OPERATOR_ABOVE_LEFTWARDS_ARROW
    aLEFTWARDS_ARROW_ABOVE_REVERSE_ALMOST_EQUAL_TOaRIGHTWARDS_ARROW_THROUGH_GREATER-THANdSUPERSET
    aLEFTWARDS_QUADRUPLE_ARROWaRIGHTWARDS_QUADRUPLE_ARROWaREVERSE_TILDE_OPERATOR_ABOVE_RIGHTWARDS_ARROW
    aRIGHTWARDS_ARROW_ABOVE_REVERSE_ALMOST_EQUAL_TOaTILDE_OPERATOR_ABOVE_LEFTWARDS_ARROW
    aLEFTWARDS_ARROW_ABOVE_ALMOST_EQUAL_TOdREVERSE_TILDE_OPERATORaRIGHTWARDS_ARROW_ABOVE_REVERSE_TILDE_OPERATOR
    aDOWNWARDS_TRIANGLE-HEADED_ZIGZAG_ARROWaSHORT_SLANTED_NORTH_ARROWbBACKSLANTED_SOUTH_ARROWaWHITE_MEDIUM_STAR
    aBLACK_SMALL_STARaWHITE_SMALL_STARaBLACK_RIGHT-POINTING_PENTAGONaWHITE_RIGHT-POINTING_PENTAGON
    aHEAVY_LARGE_CIRCLEbOVAL_WITH_OVAL_INSIDEbCIRCLE_WITH_CIRCLE_INSIDEbCIRCLEbCIRCLED_SALTIRE
    aSLANTED_NORTH_ARROW_WITH_HOOKED_HEADaBACKSLANTED_SOUTH_ARROW_WITH_HOOKED_TAIL
    aSLANTED_NORTH_ARROW_WITH_HORIZONTAL_TAILaBACKSLANTED_SOUTH_ARROW_WITH_HORIZONTAL_TAIL
    aBENT_ARROW_POINTING_DOWNWARDS_THEN_NORTH_EASTaSHORT_BENT_ARROW_POINTING_DOWNWARDS_THEN_NORTH_EAST
    aLEFTWARDS_TRIANGLE-HEADED_ARROWaUPWARDS_TRIANGLE-HEADED_ARROWaRIGHTWARDS_TRIANGLE-HEADED_ARROW
    aDOWNWARDS_TRIANGLE-HEADED_ARROWaLEFT_RIGHT_TRIANGLE-HEADED_ARROWaUP_DOWN_TRIANGLE-HEADED_ARROW
    aNORTH_WEST_TRIANGLE-HEADED_ARROWbEAST_TRIANGLE-HEADED_ARROWaSOUTH_EAST_TRIANGLE-HEADED_ARROW
    bWEST_TRIANGLE-HEADED_ARROWaLEFTWARDS_TRIANGLE-HEADED_DASHED_ARROWaUPWARDS_TRIANGLE-HEADED_DASHED_ARROW
    aRIGHTWARDS_TRIANGLE-HEADED_DASHED_ARROWaDOWNWARDS_TRIANGLE-HEADED_DASHED_ARROW
    aCLOCKWISE_TRIANGLE-HEADED_OPEN_CIRCLE_ARROWaANTICLOCKWISE_TRIANGLE-HEADED_OPEN_CIRCLE_ARROW
    aLEFTWARDS_TRIANGLE-HEADED_ARROW_TO_BARaUPWARDS_TRIANGLE-HEADED_ARROW_TO_BAR
    aRIGHTWARDS_TRIANGLE-HEADED_ARROW_TO_BARaDOWNWARDS_TRIANGLE-HEADED_ARROW_TO_BAR
    :2B76aNORTH_WEST_TRIANGLE-HEADED_ARROW_TO_BARbEAST_TRIANGLE-HEADED_ARROW_TO_BAR
    aSOUTH_EAST_TRIANGLE-HEADED_ARROW_TO_BARbWEST_TRIANGLE-HEADED_ARROW_TO_BAR
    aLEFTWARDS_TRIANGLE-HEADED_ARROW_WITH_DOUBLE_HORIZONTAL_STROKE
    aUPWARDS_TRIANGLE-HEADED_ARROW_WITH_DOUBLE_HORIZONTAL_STROKE
    aRIGHTWARDS_TRIANGLE-HEADED_ARROW_WITH_DOUBLE_HORIZONTAL_STROKE
    aDOWNWARDS_TRIANGLE-HEADED_ARROW_WITH_DOUBLE_HORIZONTAL_STROKEaHORIZONTAL_TAB_KEYaVERTICAL_TAB_KEY
    aLEFTWARDS_TRIANGLE-HEADED_ARROW_OVER_RIGHTWARDS_TRIANGLE-HEADED_ARROW
    aUPWARDS_TRIANGLE-HEADED_ARROW_LEFTWARDS_OF_DOWNWARDS_TRIANGLE-HEADED_ARROW
    aRIGHTWARDS_TRIANGLE-HEADED_ARROW_OVER_LEFTWARDS_TRIANGLE-HEADED_ARROW
    aDOWNWARDS_TRIANGLE-HEADED_ARROW_LEFTWARDS_OF_UPWARDS_TRIANGLE-HEADED_ARROW
    aLEFTWARDS_TRIANGLE-HEADED_PAIRED_ARROWSaUPWARDS_TRIANGLE-HEADED_PAIRED_ARROWS
    aRIGHTWARDS_TRIANGLE-HEADED_PAIRED_ARROWSaDOWNWARDS_TRIANGLE-HEADED_PAIRED_ARROWS
    aLEFTWARDS_BLACK_CIRCLED_WHITE_ARROWaUPWARDS_BLACK_CIRCLED_WHITE_ARROWaRIGHTWARDS_BLACK_CIRCLED_WHITE_ARROW
    aDOWNWARDS_BLACK_CIRCLED_WHITE_ARROWaANTICLOCKWISE_TRIANGLE-HEADED_RIGHT_U-SHAPED_ARROWcBOTTOM_U-SHAPED_ARROW
    cLEFT_U-SHAPED_ARROWcTOP_U-SHAPED_ARROWaRETURN_LEFTbRIGHTaNEWLINE_LEFTbRIGHT
    aFOUR_CORNER_ARROWS_CIRCLING_ANTICLOCKWISEaRIGHTWARDS_BLACK_ARROW:2B97aSYMBOL_FOR_TYPE_A_ELECTRONICS
    aTHREE-D_TOP-LIGHTED_LEFTWARDS_EQUILATERAL_ARROWHEADbRIGHT-LIGHTED_UPWARDS_EQUILATERAL_ARROWHEAD
    bTOP-LIGHTED_RIGHTWARDS_EQUILATERAL_ARROWHEADbLEFT-LIGHTED_DOWNWARDS_EQUILATERAL_ARROWHEAD
    aBLACK_LEFTWARDS_EQUILATERAL_ARROWHEADbUPWARDS_EQUILATERAL_ARROWHEADbRIGHTWARDS_EQUILATERAL_ARROWHEAD
    bDOWNWARDS_EQUILATERAL_ARROWHEADaDOWNWARDS_TRIANGLE-HEADED_ARROW_WITH_LONG_TIP_LEFTWARDSgRIGHTWARDS
    aUPWARDS_TRIANGLE-HEADED_ARROW_WITH_LONG_TIP_LEFTWARDSgRIGHTWARDS
    aLEFTWARDS_TRIANGLE-HEADED_ARROW_WITH_LONG_TIP_UPWARDSaRIGHTWARDS_TRIANGLE-HEADED_ARROW_WITH_LONG_TIP_UPWARDS
    aLEFTWARDS_TRIANGLE-HEADED_ARROW_WITH_LONG_TIP_DOWNWARDS
    aRIGHTWARDS_TRIANGLE-HEADED_ARROW_WITH_LONG_TIP_DOWNWARDSaBLACK_CURVED_DOWNWARDS_AND_LEFTWARDS_ARROW
    eRIGHTWARDS_ARROWcUPWARDS_AND_LEFTWARDS_ARROWeRIGHTWARDS_ARROWcLEFTWARDS_AND_UPWARDS_ARROW
    cRIGHTWARDS_AND_UPWARDS_ARROWcLEFTWARDS_AND_DOWNWARDS_ARROWcRIGHTWARDS_AND_DOWNWARDS_ARROW
    aRIBBON_ARROW_DOWN_LEFTdRIGHTcUP_LEFTdRIGHTcLEFT_UPcRIGHT_UPcLEFT_DOWNcRIGHT_DOWN
    aUPWARDS_WHITE_ARROW_FROM_BAR_WITH_HORIZONTAL_BARaUP_ARROWHEAD_IN_A_RECTANGLE_BOXaOVERLAPPING_WHITE_SQUARES
    cAND_BLACK_SQUARESbBLACK_SQUARESaBALLOT_BOX_WITH_LIGHT_XaCIRCLED_XbBOLD_XaBLACK_SQUARE_CENTREDbDIAMOND_CENTRED
    aTURNED_BLACK_PENTAGONaHORIZONTAL_BLACK_OCTAGONaBLACK_OCTAGONbMEDIUM_UP-POINTING_TRIANGLE_CENTRED
    cDOWN-POINTING_TRIANGLE_CENTREDcLEFT-POINTING_TRIANGLE_CENTREDcRIGHT-POINTING_TRIANGLE_CENTREDaNEPTUNE_FORM_TWO
    aTOP_HALF_BLACK_CIRCLEaBOTTOM_HALF_BLACK_CIRCLEaLIGHT_FOUR_POINTED_BLACK_CUSP
    aROTATED_LIGHT_FOUR_POINTED_BLACK_CUSPaWHITE_FOUR_POINTED_CUSPaROTATED_WHITE_FOUR_POINTED_CUSP
    aSQUARE_POSITION_INDICATORaUNCERTAINTY_SIGNaGROUP_MARKaPLUTO_FORM_TWOcTHREEcFOURcFIVEaTRANSPLUTOaPROSERPINA
    aASTRAEAaHYGIEAaPHOLUSaNESSUSaWHITE_MOON_SELENAaBLACK_DIAMOND_ON_CROSSaTRUE_LIGHT_MOON_ARTAaCUPIDOaHADESaZEUS
    aKRONOSaAPOLLONaADMETOSaVULCANUSaPOSEIDONaLEFT_HALF_BLACK_STARaRIGHT_HALF_BLACK_STARaSTAR_WITH_LEFT_HALF_BLACK
    cRIGHT_HALF_BLACKaLEFTWARDS_TWO-HEADED_ARROW_WITH_TRIANGLE_ARROWHEADS
    aUPWARDS_TWO-HEADED_ARROW_WITH_TRIANGLE_ARROWHEADSaRIGHTWARDS_TWO-HEADED_ARROW_WITH_TRIANGLE_ARROWHEADS
    aDOWNWARDS_TWO-HEADED_ARROW_WITH_TRIANGLE_ARROWHEADSaERIS_FORM_ONEcTWOaSEDNA
    aRUSSIAN_ASTROLOGICAL_SYMBOL_VIGINTILEdNOVILEdQUINTILEdBINOVILEdSENTAGONdTREDECILE
    aEQUALS_SIGN_WITH_INFINITY_BELOWaUNITED_SYMBOLaSEPARATED_SYMBOLaDOUBLED_SYMBOLaPASSED_SYMBOL
    aREVERSED_RIGHT_ANGLEaHELLSCHREIBER_PAUSE_SYMBOLaGLAGOLITIC_CAPITAL_LETTER_AZUdBUKYdVEDEdGLAGOLIdDOBROdYESTU
    dZHIVETEdDZELOdZEMLJAdIZHEdINITIAL_IZHEdIdDJERVIdKAKOdLJUDIJEdMYSLITEdNASHIdONUdPOKOJIdRITSIdSLOVOdTVRIDOdUKU
    dFRITUdHERUdOTUdPEdSHTAdTSIdCHRIVIdSHAdYERUdYERIdYATIdSPIDERY_HAdYUdSMALL_YUSfWITH_TAILdYOdIOTATED_SMALL_YUS
    dBIG_YUSdIOTATED_BIG_YUSdFITAdIZHITSAdSHTAPICdTROKUTASTI_AdLATINATE_MYSLITEdCAUDATE_CHRIVIbSMALL_LETTER_AZUdBUKY
    dVEDEdGLAGOLIdDOBROdYESTUdZHIVETEdDZELOdZEMLJAdIZHEdINITIAL_IZHEdIdDJERVIdKAKOdLJUDIJEdMYSLITEdNASHIdONUdPOKOJI
    dRITSIdSLOVOdTVRIDOdUKUdFRITUdHERUdOTUdPEdSHTAdTSIdCHRIVIdSHAdYERUdYERIdYATIdSPIDERY_HAdYUdSMALL_YUSfWITH_TAIL
    dYOdIOTATED_SMALL_YUSdBIG_YUSdIOTATED_BIG_YUSdFITAdIZHITSAdSHTAPICdTROKUTASTI_AdLATINATE_MYSLITEdCAUDATE_CHRIVI
    aLATIN_CAPITAL_LETTER_L_WITH_DOUBLE_BARbSMALL_LETTER_L_WITH_DOUBLE_BARbCAPITAL_LETTER_L_WITH_MIDDLE_TILDE
    dP_WITH_STROKEdR_WITH_TAILbSMALL_LETTER_A_WITH_STROKEdT_WITH_DIAGONAL_STROKEbCAPITAL_LETTER_H_WITH_DESCENDER
    bSMALL_LETTER_H_WITH_DESCENDERbCAPITAL_LETTER_K_WITH_DESCENDERbSMALL_LETTER_K_WITH_DESCENDER
    bCAPITAL_LETTER_Z_WITH_DESCENDERbSMALL_LETTER_Z_WITH_DESCENDERbCAPITAL_LETTER_ALPHAdM_WITH_HOOKdTURNED_AeALPHA
    bSMALL_LETTER_V_WITH_RIGHT_HOOKbCAPITAL_LETTER_W_WITH_HOOKbSMALL_LETTER_W_WITH_HOOKdV_WITH_CURL
    bCAPITAL_LETTER_HALF_HbSMALL_LETTER_HALF_HdTAILLESS_PHIdE_WITH_NOTCHdTURNED_R_WITH_TAILdO_WITH_LOW_RING_INSIDE
    bLETTER_SMALL_CAPITAL_TURNED_EbSUBSCRIPT_SMALL_LETTER_JaMODIFIER_LETTER_CAPITAL_V
    aLATIN_CAPITAL_LETTER_S_WITH_SWASH_TAILdZ_WITH_SWASH_TAILaCOPTIC_CAPITAL_LETTER_ALFAbSMALL_LETTER_ALFA
    bCAPITAL_LETTER_VIDAbSMALL_LETTER_VIDAbCAPITAL_LETTER_GAMMAbSMALL_LETTER_GAMMAbCAPITAL_LETTER_DALDA
    bSMALL_LETTER_DALDAbCAPITAL_LETTER_EIEbSMALL_LETTER_EIEbCAPITAL_LETTER_SOUbSMALL_LETTER_SOUbCAPITAL_LETTER_ZATA
    bSMALL_LETTER_ZATAbCAPITAL_LETTER_HATEbSMALL_LETTER_HATEbCAPITAL_LETTER_THETHEbSMALL_LETTER_THETHE
    bCAPITAL_LETTER_IAUDAbSMALL_LETTER_IAUDAbCAPITAL_LETTER_KAPAbSMALL_LETTER_KAPAbCAPITAL_LETTER_LAULA
    bSMALL_LETTER_LAULAbCAPITAL_LETTER_MIbSMALL_LETTER_MIbCAPITAL_LETTER_NIbSMALL_LETTER_NIbCAPITAL_LETTER_KSI
    bSMALL_LETTER_KSIbCAPITAL_LETTER_ObSMALL_LETTER_ObCAPITAL_LETTER_PIbSMALL_LETTER_PIbCAPITAL_LETTER_RO
    bSMALL_LETTER_RObCAPITAL_LETTER_SIMAbSMALL_LETTER_SIMAbCAPITAL_LETTER_TAUbSMALL_LETTER_TAUbCAPITAL_LETTER_UA
    bSMALL_LETTER_UAbCAPITAL_LETTER_FIbSMALL_LETTER_FIbCAPITAL_LETTER_KHIbSMALL_LETTER_KHIbCAPITAL_LETTER_PSI
    bSMALL_LETTER_PSIbCAPITAL_LETTER_OOUbSMALL_LETTER_OOUbCAPITAL_LETTER_DIALECT-P_ALEFbSMALL_LETTER_DIALECT-P_ALEF
    bCAPITAL_LETTER_OLD_COPTIC_AINbSMALL_LETTER_OLD_COPTIC_AINbCAPITAL_LETTER_CRYPTOGRAMMIC_EIE
    bSMALL_LETTER_CRYPTOGRAMMIC_EIEbCAPITAL_LETTER_DIALECT-P_KAPAbSMALL_LETTER_DIALECT-P_KAPA
    bCAPITAL_LETTER_DIALECT-P_NIbSMALL_LETTER_DIALECT-P_NIbCAPITAL_LETTER_CRYPTOGRAMMIC_NI
    bSMALL_LETTER_CRYPTOGRAMMIC_NIbCAPITAL_LETTER_OLD_COPTIC_OOUbSMALL_LETTER_OLD_COPTIC_OOUbCAPITAL_LETTER_SAMPI
    bSMALL_LETTER_SAMPIbCAPITAL_LETTER_CROSSED_SHEIbSMALL_LETTER_CROSSED_SHEIbCAPITAL_LETTER_OLD_COPTIC_SHEI
    bSMALL_LETTER_OLD_COPTIC_SHEIbCAPITAL_LETTER_OLD_COPTIC_ESHbSMALL_LETTER_OLD_COPTIC_ESH
    bCAPITAL_LETTER_AKHMIMIC_KHEIbSMALL_LETTER_AKHMIMIC_KHEIbCAPITAL_LETTER_DIALECT-P_HORI
    bSMALL_LETTER_DIALECT-P_HORIbCAPITAL_LETTER_OLD_COPTIC_HORIbSMALL_LETTER_OLD_COPTIC_HORI
    bCAPITAL_LETTER_OLD_COPTIC_HAbSMALL_LETTER_OLD_COPTIC_HAbCAPITAL_LETTER_L-SHAPED_HAbSMALL_LETTER_L-SHAPED_HA
    bCAPITAL_LETTER_OLD_COPTIC_HEIbSMALL_LETTER_OLD_COPTIC_HEIbCAPITAL_LETTER_OLD_COPTIC_HAT
    bSMALL_LETTER_OLD_COPTIC_HATbCAPITAL_LETTER_OLD_COPTIC_GANGIAbSMALL_LETTER_OLD_COPTIC_GANGIA
    bCAPITAL_LETTER_OLD_COPTIC_DJAbSMALL_LETTER_OLD_COPTIC_DJAbCAPITAL_LETTER_OLD_COPTIC_SHIMA
    bSMALL_LETTER_OLD_COPTIC_SHIMAbCAPITAL_LETTER_OLD_NUBIAN_SHIMAbSMALL_LETTER_OLD_NUBIAN_SHIMA
    bCAPITAL_LETTER_OLD_NUBIAN_NGIbSMALL_LETTER_OLD_NUBIAN_NGIbCAPITAL_LETTER_OLD_NUBIAN_NYI
    bSMALL_LETTER_OLD_NUBIAN_NYIbCAPITAL_LETTER_OLD_NUBIAN_WAUbSMALL_LETTER_OLD_NUBIAN_WAUbSYMBOL_KAIcMI_ROcPI_RO
    cSTAUROScTAU_ROcKHI_ROcSHIMA_SIMAbCAPITAL_LETTER_CRYPTOGRAMMIC_SHEIbSMALL_LETTER_CRYPTOGRAMMIC_SHEI
    bCAPITAL_LETTER_CRYPTOGRAMMIC_GANGIAbSMALL_LETTER_CRYPTOGRAMMIC_GANGIAbCOMBINING_NI_ABOVEcSPIRITUS_ASPERdLENIS
    bCAPITAL_LETTER_BOHAIRIC_KHEIbSMALL_LETTER_BOHAIRIC_KHEI:2CF9bOLD_NUBIAN_FULL_STOPdDIRECT_QUESTION_MARK
    dINDIRECT_QUESTION_MARKdVERSE_DIVIDERbFRACTION_ONE_HALFbFULL_STOPbMORPHOLOGICAL_DIVIDERaGEORGIAN_SMALL_LETTER_AN
    dBANdGANdDONdENdVINdZENdTANdINdKANdLASdMANdNARdONdPARdZHARdRAEdSANdTARdUNdPHARdKHARdGHANdQARdSHINdCHINdCANdJIL
    dCILdCHARdXANdJHANdHAEdHEdHIEdWEdHARdHOE:2D27dYN:2D2DdAEN:2D30aTIFINAGH_LETTER_YAcYABcYABHcYAGcYAGHH
    cBERBER_ACADEMY_YAJcYAJcYADcYADHcYADDcYADDHcYEYcYAFcYAKcTUAREG_YAKcYAKHHcYAHcBERBER_ACADEMY_YAHcTUAREG_YAHcYAHH
    cYAAcYAKHcTUAREG_YAKHcYAQcTUAREG_YAQcYIcYAZHcAHAGGAR_YAZHcTUAREG_YAZHcYALcYAMcYANcTUAREG_YAGNdYANGcYAPcYUcYAR
    cYARRcYAGHcTUAREG_YAGHcAYER_YAGHcYAScYASScYASHcYATcYATHcYACHcYATTcYAVcYAWcYAYcYAZcTAWELLEMET_YAZcYAZZcYEcYO
    :2D6FbMODIFIER_LETTER_LABIALIZATION_MARKbSEPARATOR_MARK:2D7FbCONSONANT_JOINERaETHIOPIC_SYLLABLE_LOAcMOAcROAcSOA
    cSHOAcBOAcTOAcCOAcNOAcNYOAcGLOTTAL_OAcZOAcDOAcDDOAcJOAcTHOAcCHOAcPHOAcPOAcGGWAcGGWIcGGWEEcGGWE:2DA0cSSAcSSUcSSI
    cSSAAcSSEEcSSEcSSO:2DA8cCCAcCCUcCCIcCCAAcCCEEcCCEcCCO:2DB0cZZAcZZUcZZIcZZAAcZZEEcZZEcZZO:2DB8cCCHAcCCHUcCCHI
    cCCHAAcCCHEEcCCHEcCCHO:2DC0cQYAcQYUcQYIcQYAAcQYEEcQYEcQYO:2DC8cKYAcKYUcKYIcKYAAcKYEEcKYEcKYO:2DD0cXYAcXYUcXYI
    cXYAAcXYEEcXYEcXYO:2DD8cGYAcGYUcGYIcGYAAcGYEEcGYEcGYO:2DE0aCOMBINING_CYRILLIC_LETTER_BEdVEdGHEdDEdZHEdZEdKAdEL
    dEMdENdOdPEdERdESdTEdHAdTSEdCHEdSHAdSHCHAdFITAdES-TEdAdIEdDJERVdMONOGRAPH_UKdYATdYUdIOTIFIED_AdLITTLE_YUS
    dBIG_YUSdIOTIFIED_BIG_YUSaRIGHT_ANGLE_SUBSTITUTION_MARKERcDOTTED_SUBSTITUTION_MARKERaLEFT_SUBSTITUTION_BRACKET
    aRIGHT_SUBSTITUTION_BRACKETaLEFT_DOTTED_SUBSTITUTION_BRACKETaRIGHT_DOTTED_SUBSTITUTION_BRACKET
    aRAISED_INTERPOLATION_MARKERbDOTTED_INTERPOLATION_MARKERaDOTTED_TRANSPOSITION_MARKERaLEFT_TRANSPOSITION_BRACKET
    aRIGHT_TRANSPOSITION_BRACKETaRAISED_SQUAREaLEFT_RAISED_OMISSION_BRACKETaRIGHT_RAISED_OMISSION_BRACKET
    aEDITORIAL_CORONISaPARAGRAPHOSaFORKED_PARAGRAPHOSaREVERSED_FORKED_PARAGRAPHOSaHYPODIASTOLEaDOTTED_OBELOS
    aDOWNWARDS_ANCORAaUPWARDS_ANCORAaDOTTED_RIGHT-POINTING_ANGLEaDOUBLE_OBLIQUE_HYPHENaINVERTED_INTERROBANG
    aPALM_BRANCHaHYPHEN_WITH_DIAERESISaTILDE_WITH_RING_ABOVEaLEFT_LOW_PARAPHRASE_BRACKET
    aRIGHT_LOW_PARAPHRASE_BRACKETaTILDE_WITH_DOT_ABOVEdBELOWaLEFT_VERTICAL_BAR_WITH_QUILL
    aRIGHT_VERTICAL_BAR_WITH_QUILLaTOP_LEFT_HALF_BRACKETbRIGHT_HALF_BRACKETaBOTTOM_LEFT_HALF_BRACKET
    bRIGHT_HALF_BRACKETaLEFT_SIDEWAYS_U_BRACKETaRIGHT_SIDEWAYS_U_BRACKETaLEFT_DOUBLE_PARENTHESIS
    aRIGHT_DOUBLE_PARENTHESISaTWO_DOTS_OVER_ONE_DOT_PUNCTUATIONaONE_DOT_OVER_TWO_DOTS_PUNCTUATION
    aSQUARED_FOUR_DOT_PUNCTUATIONaFIVE_DOT_MARKaREVERSED_QUESTION_MARKaVERTICAL_TILDEaRING_POINT
    aWORD_SEPARATOR_MIDDLE_DOTaTURNED_COMMAaRAISED_DOTbCOMMAaTURNED_SEMICOLONaDAGGER_WITH_LEFT_GUARDcRIGHT_GUARD
    aTURNED_DAGGERaTOP_HALF_SECTION_SIGNaTWO-EM_DASHaTHREE-EM_DASHaSTENOGRAPHIC_FULL_STOPaVERTICAL_SIX_DOTS
    aWIGGLY_VERTICAL_LINEaCAPITULUMaDOUBLE_HYPHENaREVERSED_COMMAaDOUBLE_LOW-REVERSED-9_QUOTATION_MARK
    aDASH_WITH_LEFT_UPTURNaDOUBLE_SUSPENSION_MARKaINVERTED_LOW_KAVYKAdWITH_KAVYKA_ABOVEaLOW_KAVYKAcWITH_DOT
    aDOUBLE_STACKED_COMMAaDOTTED_SOLIDUSaTRIPLE_DAGGERaMEDIEVAL_COMMAaPARAGRAPHUS_MARKaPUNCTUS_ELEVATUS_MARK
    aCORNISH_VERSE_DIVIDERaCROSS_PATTY_WITH_RIGHT_CROSSBARdLEFT_CROSSBARaTIRONIAN_SIGN_CAPITAL_ET
    aMEDIEVAL_EXCLAMATION_MARKbQUESTION_MARKaLEFT_SQUARE_BRACKET_WITH_STROKEaRIGHT_SQUARE_BRACKET_WITH_STROKE
    aLEFT_SQUARE_BRACKET_WITH_DOUBLE_STROKEaRIGHT_SQUARE_BRACKET_WITH_DOUBLE_STROKEaTOP_HALF_LEFT_PARENTHESIS
    cRIGHT_PARENTHESISaBOTTOM_HALF_LEFT_PARENTHESIScRIGHT_PARENTHESISaOBLIQUE_HYPHEN:2E80aCJK_RADICAL_REPEATcCLIFF
    cSECOND_ONEdTWOdTHREEcPERSONcBOXcTABLEcKNIFE_ONEdTWOcDIVINATIONcSEALcSMALL_ONEdTWOcLAME_ONEdTWOdTHREEdFOURcSNAKE
    cTHREADcSNOUT_ONEdTWOcHEART_ONEdTWOcHANDcRAP:2E9BcCHOKEcSUNcMOONcDEATHcMOTHERcCIVILIANcWATER_ONEdTWOcFIRE
    cPAW_ONEdTWOcSIMPLIFIED_HALF_TREE_TRUNKcCOWcDOGcJADEcBOLT_OF_CLOTHcEYEcSPIRIT_ONEdTWOcBAMBOOcSILK
    cC-SIMPLIFIED_SILKcNET_ONEdTWOdTHREEdFOURcMESHcSHEEPcRAMcEWEcOLDcBRUSH_ONEdTWOcMEATcMORTARcGRASS_ONEdTWOdTHREE
    cTIGERcCLOTHEScWEST_ONEdTWOcC-SIMPLIFIED_SEEcSIMPLIFIED_HORNcHORNcC-SIMPLIFIED_SPEECHdSHELLcFOOT
    cC-SIMPLIFIED_CARTcSIMPLIFIED_WALKcWALK_ONEdTWOcCITYcC-SIMPLIFIED_GOLDcLONG_ONEdTWOcC-SIMPLIFIED_LONGdGATE
    cMOUND_ONEdTWOcRAINcBLUEcC-SIMPLIFIED_TANNED_LEATHERdLEAFdWINDdFLYcEAT_ONEdTWOdTHREEcC-SIMPLIFIED_EATcHEAD
    cC-SIMPLIFIED_HORSEcBONEcGHOSTcC-SIMPLIFIED_FISHdBIRDdSALTcSIMPLIFIED_WHEATdYELLOWcC-SIMPLIFIED_FROG
    cJ-SIMPLIFIED_EVENcC-SIMPLIFIED_EVENcJ-SIMPLIFIED_TOOTHcC-SIMPLIFIED_TOOTHcJ-SIMPLIFIED_DRAGON
    cC-SIMPLIFIED_DRAGONcTURTLEcJ-SIMPLIFIED_TURTLEcC-SIMPLIFIED_TURTLE:2F00aKANGXI_RADICAL_ONEcLINEcDOTcSLASH
    cSECONDcHOOKcTWOcLIDcMANcLEGScENTERcEIGHTcDOWN_BOXcCOVERcICEcTABLEcOPEN_BOXcKNIFEcPOWERcWRAPcSPOON
    cRIGHT_OPEN_BOXcHIDING_ENCLOSUREcTENcDIVINATIONcSEALcCLIFFcPRIVATEcAGAINcMOUTHcENCLOSUREcEARTHcSCHOLARcGOdSLOWLY
    cEVENINGcBIGcWOMANcCHILDcROOFcINCHcSMALLcLAMEcCORPSEcSPROUTcMOUNTAINcRIVERcWORKcONESELFcTURBANcDRYcSHORT_THREAD
    cDOTTED_CLIFFcLONG_STRIDEcTWO_HANDScSHOOTcBOWcSNOUTcBRISTLEcSTEPcHEARTcHALBERDcDOORcHANDcBRANCHcRAPcSCRIPT
    cDIPPERcAXEcSQUAREcNOTcSUNcSAYcMOONcTREEcLACKcSTOPcDEATHcWEAPONcDO_NOTcCOMPAREcFURcCLANcSTEAMcWATERcFIREcCLAW
    cFATHERcDOUBLE_XcHALF_TREE_TRUNKcSLICEcFANGcCOWcDOGcPROFOUNDcJADEcMELONcTILEcSWEETcLIFEcUSEcFIELDcBOLT_OF_CLOTH
    cSICKNESScDOTTED_TENTcWHITEcSKINcDISHcEYEcSPEARcARROWcSTONEcSPIRITcTRACKcGRAINcCAVEcSTANDcBAMBOOcRICEcSILKcJAR
    cNETcSHEEPcFEATHERcOLDcANDcPLOWcEARcBRUSHcMEATcMINISTERcSELFcARRIVEcMORTARcTONGUEcOPPOSEcBOATcSTOPPINGcCOLOR
    cGRASScTIGERcINSECTcBLOODcWALK_ENCLOSUREcCLOTHEScWESTcSEEcHORNcSPEECHcVALLEYcBEANcPIGcBADGERcSHELLcREDcRUNcFOOT
    cBODYcCARTcBITTERcMORNINGcWALKcCITYcWINEcDISTINGUISHcVILLAGEcGOLDcLONGcGATEcMOUNDcSLAVEcSHORT_TAILED_BIRDcRAIN
    cBLUEcWRONGcFACEcLEATHERcTANNED_LEATHERcLEEKcSOUNDcLEAFcWINDcFLYcEATcHEADcFRAGRANTcHORSEcBONEcTALLcHAIRcFIGHT
    cSACRIFICIAL_WINEcCAULDRONcGHOSTcFISHcBIRDcSALTcDEERcWHEATcHEMPcYELLOWcMILLETcBLACKcEMBROIDERYcFROGcTRIPODcDRUM
    cRATcNOSEcEVENcTOOTHcDRAGONcTURTLEcFLUTE:2FF0aIDEOGRAPHIC_DESCRIPTION_CHARACTER_LEFT_TO_RIGHTdABOVE_TO_BELOW
    dLEFT_TO_MIDDLE_AND_RIGHTdABOVE_TO_MIDDLE_AND_BELOWdFULL_SURROUNDdSURROUND_FROM_ABOVEfBELOWfLEFTfUPPER_LEFT
    gRIGHTfLOWER_LEFTdOVERLAID"

end NullContract.CharName
