namespace NullContract.CharName

def pictographsNames : String :=
    ":1F000aMAHJONG_TILE_EAST_WINDcSOUTH_WINDcWEST_WINDcNORTH_WINDcRED_DRAGONcGREEN_DRAGONcWHITE_DRAGON
    cONE_OF_CHARACTERScTWO_OF_CHARACTERScTHREE_OF_CHARACTERScFOUR_OF_CHARACTERScFIVE_OF_CHARACTERScSIX_OF_CHARACTERS
    cSEVEN_OF_CHARACTERScEIGHT_OF_CHARACTERScNINE_OF_CHARACTERScONE_OF_BAMBOOScTWO_OF_BAMBOOScTHREE_OF_BAMBOOS
    cFOUR_OF_BAMBOOScFIVE_OF_BAMBOOScSIX_OF_BAMBOOScSEVEN_OF_BAMBOOScEIGHT_OF_BAMBOOScNINE_OF_BAMBOOScONE_OF_CIRCLES
    cTWO_OF_CIRCLEScTHREE_OF_CIRCLEScFOUR_OF_CIRCLEScFIVE_OF_CIRCLEScSIX_OF_CIRCLEScSEVEN_OF_CIRCLES
    cEIGHT_OF_CIRCLEScNINE_OF_CIRCLEScPLUMcORCHIDcBAMBOOcCHRYSANTHEMUMcSPRINGcSUMMERcAUTUMNcWINTERcJOKERcBACK
    :1F030aDOMINO_TILE_HORIZONTAL_BACKcHORIZONTAL-00-00cHORIZONTAL-00-01cHORIZONTAL-00-02cHORIZONTAL-00-03
    cHORIZONTAL-00-04cHORIZONTAL-00-05cHORIZONTAL-00-06cHORIZONTAL-01-00cHORIZONTAL-01-01cHORIZONTAL-01-02
    cHORIZONTAL-01-03cHORIZONTAL-01-04cHORIZONTAL-01-05cHORIZONTAL-01-06cHORIZONTAL-02-00cHORIZONTAL-02-01
    cHORIZONTAL-02-02cHORIZONTAL-02-03cHORIZONTAL-02-04cHORIZONTAL-02-05cHORIZONTAL-02-06cHORIZONTAL-03-00
    cHORIZONTAL-03-01cHORIZONTAL-03-02cHORIZONTAL-03-03cHORIZONTAL-03-04cHORIZONTAL-03-05cHORIZONTAL-03-06
    cHORIZONTAL-04-00cHORIZONTAL-04-01cHORIZONTAL-04-02cHORIZONTAL-04-03cHORIZONTAL-04-04cHORIZONTAL-04-05
    cHORIZONTAL-04-06cHORIZONTAL-05-00cHORIZONTAL-05-01cHORIZONTAL-05-02cHORIZONTAL-05-03cHORIZONTAL-05-04
    cHORIZONTAL-05-05cHORIZONTAL-05-06cHORIZONTAL-06-00cHORIZONTAL-06-01cHORIZONTAL-06-02cHORIZONTAL-06-03
    cHORIZONTAL-06-04cHORIZONTAL-06-05cHORIZONTAL-06-06cVERTICAL_BACKcVERTICAL-00-00cVERTICAL-00-01cVERTICAL-00-02
    cVERTICAL-00-03cVERTICAL-00-04cVERTICAL-00-05cVERTICAL-00-06cVERTICAL-01-00cVERTICAL-01-01cVERTICAL-01-02
    cVERTICAL-01-03cVERTICAL-01-04cVERTICAL-01-05cVERTICAL-01-06cVERTICAL-02-00cVERTICAL-02-01cVERTICAL-02-02
    cVERTICAL-02-03cVERTICAL-02-04cVERTICAL-02-05cVERTICAL-02-06cVERTICAL-03-00cVERTICAL-03-01cVERTICAL-03-02
    cVERTICAL-03-03cVERTICAL-03-04cVERTICAL-03-05cVERTICAL-03-06cVERTICAL-04-00cVERTICAL-04-01cVERTICAL-04-02
    cVERTICAL-04-03cVERTICAL-04-04cVERTICAL-04-05cVERTICAL-04-06cVERTICAL-05-00cVERTICAL-05-01cVERTICAL-05-02
    cVERTICAL-05-03cVERTICAL-05-04cVERTICAL-05-05cVERTICAL-05-06cVERTICAL-06-00cVERTICAL-06-01cVERTICAL-06-02
    cVERTICAL-06-03cVERTICAL-06-04cVERTICAL-06-05cVERTICAL-06-06:1F0A0aPLAYING_CARD_BACKcACE_OF_SPADEScTWO_OF_SPADES
    cTHREE_OF_SPADEScFOUR_OF_SPADEScFIVE_OF_SPADEScSIX_OF_SPADEScSEVEN_OF_SPADEScEIGHT_OF_SPADEScNINE_OF_SPADES
    cTEN_OF_SPADEScJACK_OF_SPADEScKNIGHT_OF_SPADEScQUEEN_OF_SPADEScKING_OF_SPADES:1F0B1cACE_OF_HEARTScTWO_OF_HEARTS
    cTHREE_OF_HEARTScFOUR_OF_HEARTScFIVE_OF_HEARTScSIX_OF_HEARTScSEVEN_OF_HEARTScEIGHT_OF_HEARTScNINE_OF_HEARTS
    cTEN_OF_HEARTScJACK_OF_HEARTScKNIGHT_OF_HEARTScQUEEN_OF_HEARTScKING_OF_HEARTScRED_JOKER:1F0C1cACE_OF_DIAMONDS
    cTWO_OF_DIAMONDScTHREE_OF_DIAMONDScFOUR_OF_DIAMONDScFIVE_OF_DIAMONDScSIX_OF_DIAMONDScSEVEN_OF_DIAMONDS
    cEIGHT_OF_DIAMONDScNINE_OF_DIAMONDScTEN_OF_DIAMONDScJACK_OF_DIAMONDScKNIGHT_OF_DIAMONDScQUEEN_OF_DIAMONDS
    cKING_OF_DIAMONDScBLACK_JOKER:1F0D1cACE_OF_CLUBScTWO_OF_CLUBScTHREE_OF_CLUBScFOUR_OF_CLUBScFIVE_OF_CLUBS
    cSIX_OF_CLUBScSEVEN_OF_CLUBScEIGHT_OF_CLUBScNINE_OF_CLUBScTEN_OF_CLUBScJACK_OF_CLUBScKNIGHT_OF_CLUBS
    cQUEEN_OF_CLUBScKING_OF_CLUBScWHITE_JOKERcFOOLcTRUMP-1cTRUMP-2cTRUMP-3cTRUMP-4cTRUMP-5cTRUMP-6cTRUMP-7cTRUMP-8
    cTRUMP-9cTRUMP-10cTRUMP-11cTRUMP-12cTRUMP-13cTRUMP-14cTRUMP-15cTRUMP-16cTRUMP-17cTRUMP-18cTRUMP-19cTRUMP-20
    cTRUMP-21:1F100aDIGIT_ZERO_FULL_STOPcCOMMAbONE_COMMAbTWO_COMMAbTHREE_COMMAbFOUR_COMMAbFIVE_COMMAbSIX_COMMA
    bSEVEN_COMMAbEIGHT_COMMAbNINE_COMMAaDINGBAT_CIRCLED_SANS-SERIF_DIGIT_ZERObNEGATIVE_CIRCLED_SANS-SERIF_DIGIT_ZERO
    aCIRCLED_ZERO_WITH_SLASHbANTICLOCKWISE_ARROWbDOLLAR_SIGN_WITH_OVERLAID_BACKSLASH
    aPARENTHESIZED_LATIN_CAPITAL_LETTER_AeBeCeDeEeFeGeHeIeJeKeLeMeNeOePeQeReSeTeUeVeWeXeYeZ
    aTORTOISE_SHELL_BRACKETED_LATIN_CAPITAL_LETTER_SaCIRCLED_ITALIC_LATIN_CAPITAL_LETTER_CfRbCDbWZaCOPYLEFT_SYMBOL
    aSQUARED_LATIN_CAPITAL_LETTER_AeBeCeDeEeFeGeHeIeJeKeLeMeNeOePeQeReSeTeUeVeWeXeYeZbHVbMVbSDbSSbPPVbWC
    aNEGATIVE_CIRCLED_LATIN_CAPITAL_LETTER_AfBfCfDfEfFfGfHfIfJfKfLfMfNfOfPfQfRfSfTfUfVfWfXfYfZaRAISED_MC_SIGN
    bMD_SIGNbMR_SIGNaCIRCLED_CCbC_WITH_OVERLAID_BACKSLASHbHUMAN_FIGUREaNEGATIVE_SQUARED_LATIN_CAPITAL_LETTER_AfBfCfD
    fEfFfGfHfIfJfKfLfMfNfOfPfQfRfSfTfUfVfWfXfYfZaCROSSED_NEGATIVE_SQUARED_LATIN_CAPITAL_LETTER_PaNEGATIVE_SQUARED_IC
    cPAcSAcABcWCaSQUARE_DJaSQUARED_CLbCOOLbFREEbIDbNEWbNGbOKbSOSbUP_WITH_EXCLAMATION_MARKbVSbTHREE_DbSECOND_SCREEN
    bTWO_KbFOUR_KbEIGHT_KbFIVE_POINT_ONEbSEVEN_POINT_ONEbTWENTY-TWO_POINT_TWObSIXTY_PbONE_HUNDRED_TWENTY_P
    bLATIN_SMALL_LETTER_DbHCbHDRbHI-RESbLOSSLESSbSHVbUHDbVODaMASK_WORK_SYMBOL
    :1F1E6aREGIONAL_INDICATOR_SYMBOL_LETTER_AeBeCeDeEeFeGeHeIeJeKeLeMeNeOePeQeReSeTeUeVeWeXeYeZaSQUARE_HIRAGANA_HOKA
    aSQUARED_KATAKANA_KOKOcSA:1F210bCJK_UNIFIED_IDEOGRAPH-624BdIDEOGRAPH-5B57dIDEOGRAPH-53CCbKATAKANA_DE
    bCJK_UNIFIED_IDEOGRAPH-4E8CdIDEOGRAPH-591AdIDEOGRAPH-89E3dIDEOGRAPH-5929dIDEOGRAPH-4EA4dIDEOGRAPH-6620
    dIDEOGRAPH-7121dIDEOGRAPH-6599dIDEOGRAPH-524DdIDEOGRAPH-5F8CdIDEOGRAPH-518DdIDEOGRAPH-65B0dIDEOGRAPH-521D
    dIDEOGRAPH-7D42dIDEOGRAPH-751FdIDEOGRAPH-8CA9dIDEOGRAPH-58F0dIDEOGRAPH-5439dIDEOGRAPH-6F14dIDEOGRAPH-6295
    dIDEOGRAPH-6355dIDEOGRAPH-4E00dIDEOGRAPH-4E09dIDEOGRAPH-904AdIDEOGRAPH-5DE6dIDEOGRAPH-4E2DdIDEOGRAPH-53F3
    dIDEOGRAPH-6307dIDEOGRAPH-8D70dIDEOGRAPH-6253dIDEOGRAPH-7981dIDEOGRAPH-7A7AdIDEOGRAPH-5408dIDEOGRAPH-6E80
    dIDEOGRAPH-6709dIDEOGRAPH-6708dIDEOGRAPH-7533dIDEOGRAPH-5272dIDEOGRAPH-55B6dIDEOGRAPH-914D
    :1F240aTORTOISE_SHELL_BRACKETED_CJK_UNIFIED_IDEOGRAPH-672CfIDEOGRAPH-4E09fIDEOGRAPH-4E8CfIDEOGRAPH-5B89
    fIDEOGRAPH-70B9fIDEOGRAPH-6253fIDEOGRAPH-76D7fIDEOGRAPH-52DDfIDEOGRAPH-6557:1F250aCIRCLED_IDEOGRAPH_ADVANTAGE
    cACCEPT:1F260aROUNDED_SYMBOL_FOR_FUdLUdSHOUdXIdSHUANGXIdCAI:1F300aCYCLONEaFOGGYaCLOSED_UMBRELLAaNIGHT_WITH_STARS
    aSUNRISE_OVER_MOUNTAINSaSUNRISEaCITYSCAPE_AT_DUSKaSUNSET_OVER_BUILDINGSaRAINBOWaBRIDGE_AT_NIGHTaWATER_WAVE
    aVOLCANOaMILKY_WAYaEARTH_GLOBE_EUROPE-AFRICAcAMERICAScASIA-AUSTRALIAaGLOBE_WITH_MERIDIANSaNEW_MOON_SYMBOL
    aWAXING_CRESCENT_MOON_SYMBOLaFIRST_QUARTER_MOON_SYMBOLaWAXING_GIBBOUS_MOON_SYMBOLaFULL_MOON_SYMBOL
    aWANING_GIBBOUS_MOON_SYMBOLaLAST_QUARTER_MOON_SYMBOLaWANING_CRESCENT_MOON_SYMBOLaCRESCENT_MOON
    aNEW_MOON_WITH_FACEaFIRST_QUARTER_MOON_WITH_FACEaLAST_QUARTER_MOON_WITH_FACEaFULL_MOON_WITH_FACEaSUN_WITH_FACE
    aGLOWING_STARaSHOOTING_STARaTHERMOMETERaBLACK_DROPLETaWHITE_SUNcWITH_SMALL_CLOUDcBEHIND_CLOUDeWITH_RAIN
    aCLOUD_WITH_RAINcSNOWcLIGHTNINGcTORNADOaFOGaWIND_BLOWING_FACEaHOT_DOGaTACOaBURRITOaCHESTNUTaSEEDLING
    aEVERGREEN_TREEaDECIDUOUS_TREEaPALM_TREEaCACTUSaHOT_PEPPERaTULIPaCHERRY_BLOSSOMaROSEaHIBISCUSaSUNFLOWERaBLOSSOM
    aEAR_OF_MAIZEcRICEaHERBaFOUR_LEAF_CLOVERaMAPLE_LEAFaFALLEN_LEAFaLEAF_FLUTTERING_IN_WINDaMUSHROOMaTOMATO
    aAUBERGINEaGRAPESaMELONaWATERMELONaTANGERINEaLEMONaBANANAaPINEAPPLEaRED_APPLEaGREEN_APPLEaPEARaPEACHaCHERRIES
    aSTRAWBERRYaHAMBURGERaSLICE_OF_PIZZAaMEAT_ON_BONEaPOULTRY_LEGaRICE_CRACKERbBALLaCOOKED_RICEaCURRY_AND_RICE
    aSTEAMING_BOWLaSPAGHETTIaBREADaFRENCH_FRIESaROASTED_SWEET_POTATOaDANGOaODENaSUSHIaFRIED_SHRIMP
    aFISH_CAKE_WITH_SWIRL_DESIGNaSOFT_ICE_CREAMaSHAVED_ICEaICE_CREAMaDOUGHNUTaCOOKIEaCHOCOLATE_BARaCANDYaLOLLIPOP
    aCUSTARDaHONEY_POTaSHORTCAKEaBENTO_BOXaPOT_OF_FOODaCOOKINGaFORK_AND_KNIFEaTEACUP_WITHOUT_HANDLE
    aSAKE_BOTTLE_AND_CUPaWINE_GLASSaCOCKTAIL_GLASSaTROPICAL_DRINKaBEER_MUGaCLINKING_BEER_MUGSaBABY_BOTTLE
    aFORK_AND_KNIFE_WITH_PLATEaBOTTLE_WITH_POPPING_CORKaPOPCORNaRIBBONaWRAPPED_PRESENTaBIRTHDAY_CAKEaJACK-O-LANTERN
    aCHRISTMAS_TREEaFATHER_CHRISTMASaFIREWORKSaFIREWORK_SPARKLERaBALLOONaPARTY_POPPERaCONFETTI_BALLaTANABATA_TREE
    aCROSSED_FLAGSaPINE_DECORATIONaJAPANESE_DOLLSaCARP_STREAMERaWIND_CHIMEaMOON_VIEWING_CEREMONYaSCHOOL_SATCHEL
    aGRADUATION_CAPaHEART_WITH_TIP_ON_THE_LEFTaBOUQUET_OF_FLOWERSaMILITARY_MEDALaREMINDER_RIBBON
    aMUSICAL_KEYBOARD_WITH_JACKSaSTUDIO_MICROPHONEaLEVEL_SLIDERaCONTROL_KNOBSaBEAMED_ASCENDING_MUSICAL_NOTES
    bDESCENDING_MUSICAL_NOTESaFILM_FRAMESaADMISSION_TICKETSaCAROUSEL_HORSEaFERRIS_WHEELaROLLER_COASTER
    aFISHING_POLE_AND_FISHaMICROPHONEaMOVIE_CAMERAaCINEMAaHEADPHONEaARTIST_PALETTEaTOP_HATaCIRCUS_TENTaTICKET
    aCLAPPER_BOARDaPERFORMING_ARTSaVIDEO_GAMEaDIRECT_HITaSLOT_MACHINEaBILLIARDSaGAME_DIEaBOWLING
    aFLOWER_PLAYING_CARDSaMUSICAL_NOTEaMULTIPLE_MUSICAL_NOTESaSAXOPHONEaGUITARaMUSICAL_KEYBOARDaTRUMPETaVIOLIN
    aMUSICAL_SCOREaRUNNING_SHIRT_WITH_SASHaTENNIS_RACQUET_AND_BALLaSKI_AND_SKI_BOOTaBASKETBALL_AND_HOOP
    aCHEQUERED_FLAGaSNOWBOARDERaRUNNERaSURFERaSPORTS_MEDALaTROPHYaHORSE_RACINGaAMERICAN_FOOTBALLaRUGBY_FOOTBALL
    aSWIMMERaWEIGHT_LIFTERaGOLFERaRACING_MOTORCYCLEbCARaCRICKET_BAT_AND_BALLaVOLLEYBALLaFIELD_HOCKEY_STICK_AND_BALL
    aICE_HOCKEY_STICK_AND_PUCKaTABLE_TENNIS_PADDLE_AND_BALLaSNOW_CAPPED_MOUNTAINaCAMPINGaBEACH_WITH_UMBRELLA
    aBUILDING_CONSTRUCTIONaHOUSE_BUILDINGSaCITYSCAPEaDERELICT_HOUSE_BUILDINGaCLASSICAL_BUILDINGaDESERTbISLAND
    aNATIONAL_PARKaSTADIUMaHOUSE_BUILDINGbWITH_GARDENaOFFICE_BUILDINGaJAPANESE_POST_OFFICEaEUROPEAN_POST_OFFICE
    aHOSPITALaBANKaAUTOMATED_TELLER_MACHINEaHOTELaLOVE_HOTELaCONVENIENCE_STOREaSCHOOLaDEPARTMENT_STOREaFACTORY
    aIZAKAYA_LANTERNaJAPANESE_CASTLEaEUROPEAN_CASTLEaWHITE_PENNANTaBLACK_PENNANTaWAVING_WHITE_FLAGbBLACK_FLAG
    aROSETTEaBLACK_ROSETTEaLABELaBADMINTON_RACQUET_AND_SHUTTLECOCKaBOW_AND_ARROWaAMPHORA
    aEMOJI_MODIFIER_FITZPATRICK_TYPE-1-2dTYPE-3dTYPE-4dTYPE-5dTYPE-6aRATaMOUSEaOXaWATER_BUFFALOaCOWaTIGERaLEOPARD
    aRABBITaCATaDRAGONaCROCODILEaWHALEaSNAILaSNAKEaHORSEaRAMaGOATaSHEEPaMONKEYaROOSTERaCHICKENaDOGaPIGaBOARaELEPHANT
    aOCTOPUSaSPIRAL_SHELLaBUGaANTaHONEYBEEaLADY_BEETLEaFISHaTROPICAL_FISHaBLOWFISHaTURTLEaHATCHING_CHICKaBABY_CHICK
    aFRONT-FACING_BABY_CHICKaBIRDaPENGUINaKOALAaPOODLEaDROMEDARY_CAMELaBACTRIAN_CAMELaDOLPHINaMOUSE_FACEaCOW_FACE
    aTIGER_FACEaRABBIT_FACEaCAT_FACEaDRAGON_FACEaSPOUTING_WHALEaHORSE_FACEaMONKEY_FACEaDOG_FACEaPIG_FACEaFROG_FACE
    aHAMSTER_FACEaWOLF_FACEaBEAR_FACEaPANDA_FACEaPIG_NOSEaPAW_PRINTSaCHIPMUNKaEYESaEYEaEARaNOSEaMOUTHaTONGUE
    aWHITE_UP_POINTING_BACKHAND_INDEXbDOWN_POINTING_BACKHAND_INDEXbLEFT_POINTING_BACKHAND_INDEX
    bRIGHT_POINTING_BACKHAND_INDEXaFISTED_HAND_SIGNaWAVING_HAND_SIGNaOK_HAND_SIGNaTHUMBS_UP_SIGNbDOWN_SIGN
    aCLAPPING_HANDS_SIGNaOPEN_HANDS_SIGNaCROWNaWOMANS_HATaEYEGLASSESaNECKTIEaT-SHIRTaJEANSaDRESSaKIMONOaBIKINI
    aWOMANS_CLOTHESaPURSEaHANDBAGaPOUCHaMANS_SHOEaATHLETIC_SHOEaHIGH-HEELED_SHOEaWOMANS_SANDALbBOOTSaFOOTPRINTS
    aBUST_IN_SILHOUETTEaBUSTS_IN_SILHOUETTEaBOYaGIRLaMANaWOMANaFAMILYaMAN_AND_WOMAN_HOLDING_HANDS
    aTWO_MEN_HOLDING_HANDSbWOMEN_HOLDING_HANDSaPOLICE_OFFICERaWOMAN_WITH_BUNNY_EARSaBRIDE_WITH_VEIL
    aPERSON_WITH_BLOND_HAIRaMAN_WITH_GUA_PI_MAOcTURBANaOLDER_MANbWOMANaBABYaCONSTRUCTION_WORKERaPRINCESS
    aJAPANESE_OGREbGOBLINaGHOSTaBABY_ANGELaEXTRATERRESTRIAL_ALIENaALIEN_MONSTERaIMPaSKULLaINFORMATION_DESK_PERSON
    aGUARDSMANaDANCERaLIPSTICKaNAIL_POLISHaFACE_MASSAGEaHAIRCUTaBARBER_POLEaSYRINGEaPILLaKISS_MARKaLOVE_LETTERaRING
    aGEM_STONEaKISSaBOUQUETaCOUPLE_WITH_HEARTaWEDDINGaBEATING_HEARTaBROKEN_HEARTaTWO_HEARTSaSPARKLING_HEART
    aGROWING_HEARTaHEART_WITH_ARROWaBLUE_HEARTaGREEN_HEARTaYELLOW_HEARTaPURPLE_HEARTaHEART_WITH_RIBBON
    aREVOLVING_HEARTSaHEART_DECORATIONaDIAMOND_SHAPE_WITH_A_DOT_INSIDEaELECTRIC_LIGHT_BULBaANGER_SYMBOLaBOMB
    aSLEEPING_SYMBOLaCOLLISION_SYMBOLaSPLASHING_SWEAT_SYMBOLaDROPLETaDASH_SYMBOLaPILE_OF_POOaFLEXED_BICEPS
    aDIZZY_SYMBOLaSPEECH_BALLOONaTHOUGHT_BALLOONaWHITE_FLOWERaHUNDRED_POINTS_SYMBOLaMONEY_BAGaCURRENCY_EXCHANGE
    aHEAVY_DOLLAR_SIGNaCREDIT_CARDaBANKNOTE_WITH_YEN_SIGNcDOLLAR_SIGNcEURO_SIGNcPOUND_SIGNaMONEY_WITH_WINGS
    aCHART_WITH_UPWARDS_TREND_AND_YEN_SIGNaSEATaPERSONAL_COMPUTERaBRIEFCASEaMINIDISCaFLOPPY_DISKaOPTICAL_DISCaDVD
    aFILE_FOLDERaOPEN_FILE_FOLDERaPAGE_WITH_CURLbFACING_UPaCALENDARaTEAR-OFF_CALENDARaCARD_INDEX
    aCHART_WITH_UPWARDS_TRENDcDOWNWARDS_TRENDaBAR_CHARTaCLIPBOARDaPUSHPINaROUND_PUSHPINaPAPERCLIPaSTRAIGHT_RULER
    aTRIANGULAR_RULERaBOOKMARK_TABSaLEDGERaNOTEBOOKbWITH_DECORATIVE_COVERaCLOSED_BOOKaOPEN_BOOKaGREEN_BOOKaBLUE_BOOK
    aORANGE_BOOKaBOOKSaNAME_BADGEaSCROLLaMEMOaTELEPHONE_RECEIVERaPAGERaFAX_MACHINEaSATELLITE_ANTENNA
    aPUBLIC_ADDRESS_LOUDSPEAKERaCHEERING_MEGAPHONEaOUTBOX_TRAYaINBOX_TRAYaPACKAGEaE-MAIL_SYMBOLaINCOMING_ENVELOPE
    aENVELOPE_WITH_DOWNWARDS_ARROW_ABOVEaCLOSED_MAILBOX_WITH_LOWERED_FLAGdRAISED_FLAGaOPEN_MAILBOX_WITH_RAISED_FLAG
    dLOWERED_FLAGaPOSTBOXaPOSTAL_HORNaNEWSPAPERaMOBILE_PHONEcWITH_RIGHTWARDS_ARROW_AT_LEFTaVIBRATION_MODE
    aMOBILE_PHONE_OFFaNO_MOBILE_PHONESaANTENNA_WITH_BARSaCAMERAbWITH_FLASHaVIDEO_CAMERAaTELEVISIONaRADIO
    aVIDEOCASSETTEaFILM_PROJECTORaPORTABLE_STEREOaPRAYER_BEADSaTWISTED_RIGHTWARDS_ARROWS
    aCLOCKWISE_RIGHTWARDS_AND_LEFTWARDS_OPEN_CIRCLE_ARROWShWITH_CIRCLED_ONE_OVERLAY
    bDOWNWARDS_AND_UPWARDS_OPEN_CIRCLE_ARROWSaANTICLOCKWISE_DOWNWARDS_AND_UPWARDS_OPEN_CIRCLE_ARROWS
    aLOW_BRIGHTNESS_SYMBOLaHIGH_BRIGHTNESS_SYMBOLaSPEAKER_WITH_CANCELLATION_STROKEaSPEAKERbWITH_ONE_SOUND_WAVE
    cTHREE_SOUND_WAVESaBATTERYaELECTRIC_PLUGaLEFT-POINTING_MAGNIFYING_GLASSaRIGHT-POINTING_MAGNIFYING_GLASS
    aLOCK_WITH_INK_PENaCLOSED_LOCK_WITH_KEYaKEYaLOCKaOPEN_LOCKaBELLbWITH_CANCELLATION_STROKEaBOOKMARKaLINK_SYMBOL
    aRADIO_BUTTONaBACK_WITH_LEFTWARDS_ARROW_ABOVEaEND_WITH_LEFTWARDS_ARROW_ABOVE
    aON_WITH_EXCLAMATION_MARK_WITH_LEFT_RIGHT_ARROW_ABOVEaSOON_WITH_RIGHTWARDS_ARROW_ABOVE
    aTOP_WITH_UPWARDS_ARROW_ABOVEaNO_ONE_UNDER_EIGHTEEN_SYMBOLaKEYCAP_TENaINPUT_SYMBOL_FOR_LATIN_CAPITAL_LETTERS
    eSMALL_LETTERSdNUMBERSdSYMBOLSdLATIN_LETTERSaFIREaELECTRIC_TORCHaWRENCHaHAMMERaNUT_AND_BOLTaHOCHOaPISTOL
    aMICROSCOPEaTELESCOPEaCRYSTAL_BALLaSIX_POINTED_STAR_WITH_MIDDLE_DOTaJAPANESE_SYMBOL_FOR_BEGINNERaTRIDENT_EMBLEM
    aBLACK_SQUARE_BUTTONaWHITE_SQUARE_BUTTONaLARGE_RED_CIRCLEbBLUE_CIRCLEbORANGE_DIAMONDbBLUE_DIAMOND
    aSMALL_ORANGE_DIAMONDbBLUE_DIAMONDaUP-POINTING_RED_TRIANGLEaDOWN-POINTING_RED_TRIANGLE
    aUP-POINTING_SMALL_RED_TRIANGLEaDOWN-POINTING_SMALL_RED_TRIANGLEaLOWER_RIGHT_SHADOWED_WHITE_CIRCLE
    aUPPER_RIGHT_SHADOWED_WHITE_CIRCLEaCIRCLED_CROSS_POMMEEaCROSS_POMMEE_WITH_HALF-CIRCLE_BELOWbPOMMEE
    aNOTCHED_LEFT_SEMICIRCLE_WITH_THREE_DOTSbRIGHT_SEMICIRCLE_WITH_THREE_DOTSaSYMBOL_FOR_MARKS_CHAPTER
    aWHITE_LATIN_CROSSaHEAVY_LATIN_CROSSaCELTIC_CROSSaOM_SYMBOLaDOVE_OF_PEACEaKAABAaMOSQUEaSYNAGOGUE
    aMENORAH_WITH_NINE_BRANCHESaBOWL_OF_HYGIEIAaCLOCK_FACE_ONE_OCLOCKcTWO_OCLOCKcTHREE_OCLOCKcFOUR_OCLOCK
    cFIVE_OCLOCKcSIX_OCLOCKcSEVEN_OCLOCKcEIGHT_OCLOCKcNINE_OCLOCKcTEN_OCLOCKcELEVEN_OCLOCKcTWELVE_OCLOCKcONE-THIRTY
    cTWO-THIRTYcTHREE-THIRTYcFOUR-THIRTYcFIVE-THIRTYcSIX-THIRTYcSEVEN-THIRTYcEIGHT-THIRTYcNINE-THIRTYcTEN-THIRTY
    cELEVEN-THIRTYcTWELVE-THIRTYaRIGHT_SPEAKERcWITH_ONE_SOUND_WAVEdTHREE_SOUND_WAVESaBULLHORNbWITH_SOUND_WAVES
    aRINGING_BELLaBOOKaCANDLEaMANTELPIECE_CLOCKaBLACK_SKULL_AND_CROSSBONESaNO_PIRACYaHOLE
    aMAN_IN_BUSINESS_SUIT_LEVITATINGaSLEUTH_OR_SPYaDARK_SUNGLASSESaSPIDERbWEBaJOYSTICKaMAN_DANCING
    aLEFT_HAND_TELEPHONE_RECEIVERaTELEPHONE_RECEIVER_WITH_PAGEaRIGHT_HAND_TELEPHONE_RECEIVER
    aWHITE_TOUCHTONE_TELEPHONEaBLACK_TOUCHTONE_TELEPHONEaTELEPHONE_ON_TOP_OF_MODEMaCLAMSHELL_MOBILE_PHONE
    aBACK_OF_ENVELOPEaSTAMPED_ENVELOPEaENVELOPE_WITH_LIGHTNINGaFLYING_ENVELOPEaPEN_OVER_STAMPED_ENVELOPE
    aLINKED_PAPERCLIPSaBLACK_PUSHPINaLOWER_LEFT_PENCILcBALLPOINT_PENcFOUNTAIN_PENcPAINTBRUSHcCRAYON
    aLEFT_WRITING_HANDaTURNED_OK_HAND_SIGNaRAISED_HAND_WITH_FINGERS_SPLAYED
    aREVERSED_RAISED_HAND_WITH_FINGERS_SPLAYEDbTHUMBS_UP_SIGNcDOWN_SIGNbVICTORY_HAND
    bHAND_WITH_MIDDLE_FINGER_EXTENDEDaRAISED_HAND_WITH_PART_BETWEEN_MIDDLE_AND_RING_FINGERS
    aWHITE_DOWN_POINTING_LEFT_HAND_INDEXaSIDEWAYS_WHITE_LEFT_POINTING_INDEXcRIGHT_POINTING_INDEX
    bBLACK_LEFT_POINTING_INDEXcRIGHT_POINTING_INDEXaBLACK_LEFT_POINTING_BACKHAND_INDEXbRIGHT_POINTING_BACKHAND_INDEX
    aSIDEWAYS_WHITE_UP_POINTING_INDEXcDOWN_POINTING_INDEXbBLACK_UP_POINTING_INDEXcDOWN_POINTING_INDEX
    aBLACK_UP_POINTING_BACKHAND_INDEXbDOWN_POINTING_BACKHAND_INDEXbHEARTaDESKTOP_COMPUTERaKEYBOARD_AND_MOUSE
    aTHREE_NETWORKED_COMPUTERSaPRINTERaPOCKET_CALCULATORaBLACK_HARD_SHELL_FLOPPY_DISKaWHITE_HARD_SHELL_FLOPPY_DISK
    aSOFT_SHELL_FLOPPY_DISKaTAPE_CARTRIDGEaWIRED_KEYBOARDaONE_BUTTON_MOUSEaTWO_BUTTON_MOUSEaTHREE_BUTTON_MOUSE
    aTRACKBALLaOLD_PERSONAL_COMPUTERaHARD_DISKaSCREENaPRINTER_ICONaFAX_ICONaOPTICAL_DISC_ICONaDOCUMENT_WITH_TEXT
    dAND_PICTUREcPICTUREaFRAME_WITH_PICTUREcTILEScAN_XaBLACK_FOLDERaFOLDERaOPEN_FOLDERaCARD_INDEX_DIVIDERSbFILE_BOX
    aFILE_CABINETaEMPTY_NOTEcPAGEcPADaNOTEbPAGEbPADaEMPTY_DOCUMENTbPAGEbPAGESaDOCUMENTaPAGEaPAGESaWASTEBASKET
    aSPIRAL_NOTE_PADbCALENDAR_PADaDESKTOP_WINDOWaMINIMIZEaMAXIMIZEaOVERLAP
    aCLOCKWISE_RIGHT_AND_LEFT_SEMICIRCLE_ARROWSaCANCELLATION_XaINCREASE_FONT_SIZE_SYMBOLaDECREASE_FONT_SIZE_SYMBOL
    aCOMPRESSIONaOLD_KEYaROLLED-UP_NEWSPAPERaPAGE_WITH_CIRCLED_TEXTaSTOCK_CHARTaDAGGER_KNIFEaLIPS
    aSPEAKING_HEAD_IN_SILHOUETTEaTHREE_RAYS_ABOVEcBELOWcLEFTcRIGHTaLEFT_SPEECH_BUBBLEaRIGHT_SPEECH_BUBBLE
    aTWO_SPEECH_BUBBLESaTHREE_SPEECH_BUBBLESaLEFT_THOUGHT_BUBBLEaRIGHT_THOUGHT_BUBBLEaLEFT_ANGER_BUBBLE
    aRIGHT_ANGER_BUBBLEaMOOD_BUBBLEaLIGHTNING_MOOD_BUBBLEbMOODaBALLOT_BOX_WITH_BALLOTbSCRIPT_XbBOX_WITH_SCRIPT_X
    bBOLD_SCRIPT_XbBOX_WITH_BOLD_SCRIPT_XaLIGHT_CHECK_MARKaBALLOT_BOX_WITH_BOLD_CHECKaWORLD_MAPaMOUNT_FUJI
    aTOKYO_TOWERaSTATUE_OF_LIBERTYaSILHOUETTE_OF_JAPANaMOYAIaGRINNING_FACEcWITH_SMILING_EYESaFACE_WITH_TEARS_OF_JOY
    aSMILING_FACE_WITH_OPEN_MOUTHfAND_SMILING_EYESgCOLD_SWEATgTIGHTLY-CLOSED_EYESdHALOdHORNSaWINKING_FACE
    aSMILING_FACE_WITH_SMILING_EYESaFACE_SAVOURING_DELICIOUS_FOODaRELIEVED_FACEaSMILING_FACE_WITH_HEART-SHAPED_EYES
    dSUNGLASSESaSMIRKING_FACEaNEUTRAL_FACEaEXPRESSIONLESS_FACEaUNAMUSED_FACEaFACE_WITH_COLD_SWEATaPENSIVE_FACE
    aCONFUSED_FACEaCONFOUNDED_FACEaKISSING_FACEaFACE_THROWING_A_KISSaKISSING_FACE_WITH_SMILING_EYESdCLOSED_EYES
    aFACE_WITH_STUCK-OUT_TONGUEeAND_WINKING_EYEfTIGHTLY-CLOSED_EYESaDISAPPOINTED_FACEaWORRIED_FACEaANGRY_FACE
    aPOUTING_FACEaCRYING_FACEaPERSEVERING_FACEaFACE_WITH_LOOK_OF_TRIUMPHaDISAPPOINTED_BUT_RELIEVED_FACE
    aFROWNING_FACE_WITH_OPEN_MOUTHaANGUISHED_FACEaFEARFUL_FACEaWEARY_FACEaSLEEPY_FACEaTIRED_FACEaGRIMACING_FACE
    aLOUDLY_CRYING_FACEaFACE_WITH_OPEN_MOUTHaHUSHED_FACEaFACE_WITH_OPEN_MOUTH_AND_COLD_SWEATbSCREAMING_IN_FEAR
    aASTONISHED_FACEaFLUSHED_FACEaSLEEPING_FACEaDIZZY_FACEaFACE_WITHOUT_MOUTHbWITH_MEDICAL_MASK
    aGRINNING_CAT_FACE_WITH_SMILING_EYESaCAT_FACE_WITH_TEARS_OF_JOYaSMILING_CAT_FACE_WITH_OPEN_MOUTH
    eHEART-SHAPED_EYESaCAT_FACE_WITH_WRY_SMILEaKISSING_CAT_FACE_WITH_CLOSED_EYESaPOUTING_CAT_FACEaCRYING_CAT_FACE
    aWEARY_CAT_FACEaSLIGHTLY_FROWNING_FACEbSMILING_FACEaUPSIDE-DOWN_FACEaFACE_WITH_ROLLING_EYEScNO_GOOD_GESTURE
    cOK_GESTUREaPERSON_BOWING_DEEPLYaSEE-NO-EVIL_MONKEYaHEAR-NO-EVIL_MONKEYaSPEAK-NO-EVIL_MONKEY
    aHAPPY_PERSON_RAISING_ONE_HANDaPERSON_RAISING_BOTH_HANDS_IN_CELEBRATIONbFROWNINGbWITH_POUTING_FACEcFOLDED_HANDS
    aNORTH_WEST_POINTING_LEAFaSOUTH_WEST_POINTING_LEAFaNORTH_EAST_POINTING_LEAFaSOUTH_EAST_POINTING_LEAF
    aTURNED_NORTH_WEST_POINTING_LEAFbSOUTH_WEST_POINTING_LEAFbNORTH_EAST_POINTING_LEAFbSOUTH_EAST_POINTING_LEAF
    aNORTH_WEST_POINTING_VINE_LEAFaSOUTH_WEST_POINTING_VINE_LEAFaNORTH_EAST_POINTING_VINE_LEAF
    aSOUTH_EAST_POINTING_VINE_LEAFaHEAVY_NORTH_WEST_POINTING_VINE_LEAFbSOUTH_WEST_POINTING_VINE_LEAF
    bNORTH_EAST_POINTING_VINE_LEAFbSOUTH_EAST_POINTING_VINE_LEAFaNORTH_WEST_POINTING_BUDaSOUTH_WEST_POINTING_BUD
    aNORTH_EAST_POINTING_BUDaSOUTH_EAST_POINTING_BUDaHEAVY_NORTH_WEST_POINTING_BUDbSOUTH_WEST_POINTING_BUD
    bNORTH_EAST_POINTING_BUDbSOUTH_EAST_POINTING_BUDaHOLLOW_QUILT_SQUARE_ORNAMENTeIN_BLACK_SQUARE
    aSOLID_QUILT_SQUARE_ORNAMENTeIN_BLACK_SQUAREaLEFTWARDS_ROCKETaUPWARDS_ROCKETaRIGHTWARDS_ROCKETaDOWNWARDS_ROCKET
    aSCRIPT_LIGATURE_ET_ORNAMENTaHEAVY_SCRIPT_LIGATURE_ET_ORNAMENTaLIGATURE_OPEN_ET_ORNAMENT
    aHEAVY_LIGATURE_OPEN_ET_ORNAMENTbAMPERSAND_ORNAMENTaSWASH_AMPERSAND_ORNAMENT
    aSANS-SERIF_HEAVY_DOUBLE_TURNED_COMMA_QUOTATION_MARK_ORNAMENTdCOMMA_QUOTATION_MARK_ORNAMENT
    cLOW_DOUBLE_COMMA_QUOTATION_MARK_ORNAMENTaHEAVY_INTERROBANG_ORNAMENTaSANS-SERIF_INTERROBANG_ORNAMENT
    aHEAVY_SANS-SERIF_INTERROBANG_ORNAMENTaVERY_HEAVY_SOLIDUScREVERSE_SOLIDUSaCHECKER_BOARDaREVERSE_CHECKER_BOARD
    aROCKETaHELICOPTERaSTEAM_LOCOMOTIVEaRAILWAY_CARaHIGH-SPEED_TRAINcWITH_BULLET_NOSEaTRAINaMETROaLIGHT_RAILaSTATION
    aTRAMbCARaBUSaONCOMING_BUSaTROLLEYBUSaBUS_STOPaMINIBUSaAMBULANCEaFIRE_ENGINEaPOLICE_CARaONCOMING_POLICE_CARaTAXI
    aONCOMING_TAXIaAUTOMOBILEaONCOMING_AUTOMOBILEaRECREATIONAL_VEHICLEaDELIVERY_TRUCKaARTICULATED_LORRYaTRACTOR
    aMONORAILaMOUNTAIN_RAILWAYaSUSPENSION_RAILWAYaMOUNTAIN_CABLEWAYaAERIAL_TRAMWAYaSHIPaROWBOATaSPEEDBOAT
    aHORIZONTAL_TRAFFIC_LIGHTaVERTICAL_TRAFFIC_LIGHTaCONSTRUCTION_SIGNaPOLICE_CARS_REVOLVING_LIGHT
    aTRIANGULAR_FLAG_ON_POSTaDOORaNO_ENTRY_SIGNaSMOKING_SYMBOLaNO_SMOKING_SYMBOLaPUT_LITTER_IN_ITS_PLACE_SYMBOL
    aDO_NOT_LITTER_SYMBOLaPOTABLE_WATER_SYMBOLaNON-POTABLE_WATER_SYMBOLaBICYCLEaNO_BICYCLESaBICYCLIST
    aMOUNTAIN_BICYCLISTaPEDESTRIANaNO_PEDESTRIANSaCHILDREN_CROSSINGaMENS_SYMBOLaWOMENS_SYMBOLaRESTROOMaBABY_SYMBOL
    aTOILETaWATER_CLOSETaSHOWERaBATHaBATHTUBaPASSPORT_CONTROLaCUSTOMSaBAGGAGE_CLAIMaLEFT_LUGGAGE
    aTRIANGLE_WITH_ROUNDED_CORNERSaPROHIBITED_SIGNaCIRCLED_INFORMATION_SOURCEaBOYS_SYMBOLaGIRLS_SYMBOL
    aCOUCH_AND_LAMPaSLEEPING_ACCOMMODATIONaSHOPPING_BAGSaBELLHOP_BELLaBEDaPLACE_OF_WORSHIPaOCTAGONAL_SIGN
    aSHOPPING_TROLLEYaSTUPAaPAGODAaHINDU_TEMPLEaHUTaELEVATOR:1F6DDaPLAYGROUND_SLIDEaWHEELaRING_BUOY
    aHAMMER_AND_WRENCHaSHIELDaOIL_DRUMaMOTORWAYaRAILWAY_TRACKaMOTOR_BOATaUP-POINTING_MILITARY_AIRPLANEbAIRPLANE
    bSMALL_AIRPLANEaSMALL_AIRPLANEaNORTHEAST-POINTING_AIRPLANEaAIRPLANE_DEPARTUREbARRIVING:1F6F0aSATELLITE
    aONCOMING_FIRE_ENGINEaDIESEL_LOCOMOTIVEaPASSENGER_SHIPaSCOOTERaMOTOR_SCOOTERaCANOEaSLEDaFLYING_SAUCERaSKATEBOARD
    aAUTO_RICKSHAWaPICKUP_TRUCKaROLLER_SKATE:1F700aALCHEMICAL_SYMBOL_FOR_QUINTESSENCEdAIRdFIREdEARTHdWATER
    dAQUAFORTISdAQUA_REGIAeREGIA-2eVITAEeVITAE-2dVINEGARdVINEGAR-2dVINEGAR-3dSULFURdPHILOSOPHERS_SULFURdBLACK_SULFUR
    dMERCURY_SUBLIMATEeSUBLIMATE-2eSUBLIMATE-3dCINNABARdSALTdNITREdVITRIOLdVITRIOL-2dROCK_SALTeSALT-2dGOLDdSILVER
    dIRON_OREeORE-2dCROCUS_OF_IRONdREGULUS_OF_IRONdCOPPER_OREdIRON-COPPER_OREdSUBLIMATE_OF_COPPERdCROCUS_OF_COPPER
    fCOPPER-2dCOPPER_ANTIMONIATEdSALT_OF_COPPER_ANTIMONIATEdSUBLIMATE_OF_SALT_OF_COPPERdVERDIGRISdTIN_OREdLEAD_ORE
    dANTIMONY_OREdSUBLIMATE_OF_ANTIMONYdSALT_OF_ANTIMONYdSUBLIMATE_OF_SALT_OF_ANTIMONYdVINEGAR_OF_ANTIMONY
    dREGULUS_OF_ANTIMONYfANTIMONY-2dREGULUSdREGULUS-2dREGULUS-3dREGULUS-4dALKALIdALKALI-2dMARCASITEdSAL-AMMONIAC
    dARSENICdREALGARdREALGAR-2dAURIPIGMENTdBISMUTH_OREdTARTARdTARTAR-2dQUICK_LIMEdBORAXdBORAX-2dBORAX-3dALUMdOIL
    dSPIRITdTINCTUREdGUMdWAXdPOWDERdCALXdTUTTYdCAPUT_MORTUUMdSCEPTER_OF_JOVEdCADUCEUSdTRIDENTdSTARRED_TRIDENT
    dLODESTONEdSOAPdURINEdHORSE_DUNGdASHESdPOT_ASHESdBRICKdPOWDERED_BRICKdAMALGAMdSTRATUM_SUPER_STRATUMfSTRATUM-2
    dSUBLIMATIONdPRECIPITATEdDISTILLdDISSOLVEdDISSOLVE-2dPURIFYdPUTREFACTIONdCRUCIBLEdCRUCIBLE-2dCRUCIBLE-3
    dCRUCIBLE-4dCRUCIBLE-5dALEMBICdBATH_OF_MARYfVAPOURSdRETORTdHOURdNIGHTdDAY-NIGHTdMONTHdHALF_DRAMeOUNCE
    :1F780aBLACK_LEFT-POINTING_ISOSCELES_RIGHT_TRIANGLEbUP-POINTING_ISOSCELES_RIGHT_TRIANGLE
    bRIGHT-POINTING_ISOSCELES_RIGHT_TRIANGLEbDOWN-POINTING_ISOSCELES_RIGHT_TRIANGLEbSLIGHTLY_SMALL_CIRCLE
    aMEDIUM_BOLD_WHITE_CIRCLEaBOLD_WHITE_CIRCLEaHEAVY_WHITE_CIRCLEaVERY_HEAVY_WHITE_CIRCLE
    aEXTREMELY_HEAVY_WHITE_CIRCLEaWHITE_CIRCLE_CONTAINING_BLACK_SMALL_CIRCLEaROUND_TARGETaBLACK_TINY_SQUARE
    bSLIGHTLY_SMALL_SQUAREaLIGHT_WHITE_SQUAREaMEDIUM_WHITE_SQUAREaBOLD_WHITE_SQUAREaHEAVY_WHITE_SQUARE
    aVERY_HEAVY_WHITE_SQUAREaEXTREMELY_HEAVY_WHITE_SQUAREaWHITE_SQUARE_CONTAINING_BLACK_VERY_SMALL_SQUARE
    eMEDIUM_SQUAREaSQUARE_TARGETaBLACK_TINY_DIAMONDbVERY_SMALL_DIAMONDbMEDIUM_SMALL_DIAMOND
    aWHITE_DIAMOND_CONTAINING_BLACK_VERY_SMALL_DIAMONDeMEDIUM_DIAMONDaDIAMOND_TARGETaBLACK_TINY_LOZENGE
    bVERY_SMALL_LOZENGEbMEDIUM_SMALL_LOZENGEaWHITE_LOZENGE_CONTAINING_BLACK_SMALL_LOZENGEaTHIN_GREEK_CROSS
    aLIGHT_GREEK_CROSSaMEDIUM_GREEK_CROSSaBOLD_GREEK_CROSSaVERY_BOLD_GREEK_CROSSbHEAVY_GREEK_CROSS
    aEXTREMELY_HEAVY_GREEK_CROSSaTHIN_SALTIREaLIGHT_SALTIREaMEDIUM_SALTIREaBOLD_SALTIREaHEAVY_SALTIRE
    aVERY_HEAVY_SALTIREaEXTREMELY_HEAVY_SALTIREaLIGHT_FIVE_SPOKED_ASTERISKaMEDIUM_FIVE_SPOKED_ASTERISK
    aBOLD_FIVE_SPOKED_ASTERISKaHEAVY_FIVE_SPOKED_ASTERISKaVERY_HEAVY_FIVE_SPOKED_ASTERISK
    aEXTREMELY_HEAVY_FIVE_SPOKED_ASTERISKaLIGHT_SIX_SPOKED_ASTERISKaMEDIUM_SIX_SPOKED_ASTERISK
    aBOLD_SIX_SPOKED_ASTERISKaHEAVY_SIX_SPOKED_ASTERISKaVERY_HEAVY_SIX_SPOKED_ASTERISK
    aEXTREMELY_HEAVY_SIX_SPOKED_ASTERISKaLIGHT_EIGHT_SPOKED_ASTERISKaMEDIUM_EIGHT_SPOKED_ASTERISK
    aBOLD_EIGHT_SPOKED_ASTERISKaHEAVY_EIGHT_SPOKED_ASTERISKaVERY_HEAVY_EIGHT_SPOKED_ASTERISK
    aLIGHT_THREE_POINTED_BLACK_STARaMEDIUM_THREE_POINTED_BLACK_STARaTHREE_POINTED_BLACK_STAR
    aMEDIUM_THREE_POINTED_PINWHEEL_STARaLIGHT_FOUR_POINTED_BLACK_STARaMEDIUM_FOUR_POINTED_BLACK_STAR
    aFOUR_POINTED_BLACK_STARaMEDIUM_FOUR_POINTED_PINWHEEL_STARaREVERSE_LIGHT_FOUR_POINTED_PINWHEEL_STAR
    aLIGHT_FIVE_POINTED_BLACK_STARaHEAVY_FIVE_POINTED_BLACK_STARaMEDIUM_SIX_POINTED_BLACK_STAR
    aHEAVY_SIX_POINTED_BLACK_STARaSIX_POINTED_PINWHEEL_STARaMEDIUM_EIGHT_POINTED_BLACK_STAR
    aHEAVY_EIGHT_POINTED_BLACK_STARaVERY_HEAVY_EIGHT_POINTED_BLACK_STARaHEAVY_EIGHT_POINTED_PINWHEEL_STAR
    aLIGHT_TWELVE_POINTED_BLACK_STARaHEAVY_TWELVE_POINTED_BLACK_STARdPINWHEEL_STARaCIRCLED_TRIANGLE
    aNEGATIVE_CIRCLED_TRIANGLEaCIRCLED_SQUAREaNEGATIVE_CIRCLED_SQUARE:1F7E0aLARGE_ORANGE_CIRCLEbYELLOW_CIRCLE
    bGREEN_CIRCLEbPURPLE_CIRCLEbBROWN_CIRCLEbRED_SQUAREbBLUE_SQUAREbORANGE_SQUAREbYELLOW_SQUAREbGREEN_SQUARE
    bPURPLE_SQUAREbBROWN_SQUARE:1F7F0aHEAVY_EQUALS_SIGN:1F800aLEFTWARDS_ARROW_WITH_SMALL_TRIANGLE_ARROWHEAD
    aUPWARDS_ARROW_WITH_SMALL_TRIANGLE_ARROWHEADaRIGHTWARDS_ARROW_WITH_SMALL_TRIANGLE_ARROWHEAD
    aDOWNWARDS_ARROW_WITH_SMALL_TRIANGLE_ARROWHEADaLEFTWARDS_ARROW_WITH_MEDIUM_TRIANGLE_ARROWHEAD
    aUPWARDS_ARROW_WITH_MEDIUM_TRIANGLE_ARROWHEADaRIGHTWARDS_ARROW_WITH_MEDIUM_TRIANGLE_ARROWHEAD
    aDOWNWARDS_ARROW_WITH_MEDIUM_TRIANGLE_ARROWHEADaLEFTWARDS_ARROW_WITH_LARGE_TRIANGLE_ARROWHEAD
    aUPWARDS_ARROW_WITH_LARGE_TRIANGLE_ARROWHEADaRIGHTWARDS_ARROW_WITH_LARGE_TRIANGLE_ARROWHEAD
    aDOWNWARDS_ARROW_WITH_LARGE_TRIANGLE_ARROWHEAD:1F810aLEFTWARDS_ARROW_WITH_SMALL_EQUILATERAL_ARROWHEAD
    aUPWARDS_ARROW_WITH_SMALL_EQUILATERAL_ARROWHEADaRIGHTWARDS_ARROW_WITH_SMALL_EQUILATERAL_ARROWHEAD
    aDOWNWARDS_ARROW_WITH_SMALL_EQUILATERAL_ARROWHEADaLEFTWARDS_ARROW_WITH_EQUILATERAL_ARROWHEAD
    aUPWARDS_ARROW_WITH_EQUILATERAL_ARROWHEADaRIGHTWARDS_ARROW_WITH_EQUILATERAL_ARROWHEAD
    aDOWNWARDS_ARROW_WITH_EQUILATERAL_ARROWHEADaHEAVY_LEFTWARDS_ARROW_WITH_EQUILATERAL_ARROWHEAD
    bUPWARDS_ARROW_WITH_EQUILATERAL_ARROWHEADbRIGHTWARDS_ARROW_WITH_EQUILATERAL_ARROWHEAD
    bDOWNWARDS_ARROW_WITH_EQUILATERAL_ARROWHEADbLEFTWARDS_ARROW_WITH_LARGE_EQUILATERAL_ARROWHEAD
    bUPWARDS_ARROW_WITH_LARGE_EQUILATERAL_ARROWHEADbRIGHTWARDS_ARROW_WITH_LARGE_EQUILATERAL_ARROWHEAD
    bDOWNWARDS_ARROW_WITH_LARGE_EQUILATERAL_ARROWHEADaLEFTWARDS_TRIANGLE-HEADED_ARROW_WITH_NARROW_SHAFT
    aUPWARDS_TRIANGLE-HEADED_ARROW_WITH_NARROW_SHAFTaRIGHTWARDS_TRIANGLE-HEADED_ARROW_WITH_NARROW_SHAFT
    aDOWNWARDS_TRIANGLE-HEADED_ARROW_WITH_NARROW_SHAFTaLEFTWARDS_TRIANGLE-HEADED_ARROW_WITH_MEDIUM_SHAFT
    aUPWARDS_TRIANGLE-HEADED_ARROW_WITH_MEDIUM_SHAFTaRIGHTWARDS_TRIANGLE-HEADED_ARROW_WITH_MEDIUM_SHAFT
    aDOWNWARDS_TRIANGLE-HEADED_ARROW_WITH_MEDIUM_SHAFTaLEFTWARDS_TRIANGLE-HEADED_ARROW_WITH_BOLD_SHAFT
    aUPWARDS_TRIANGLE-HEADED_ARROW_WITH_BOLD_SHAFTaRIGHTWARDS_TRIANGLE-HEADED_ARROW_WITH_BOLD_SHAFT
    aDOWNWARDS_TRIANGLE-HEADED_ARROW_WITH_BOLD_SHAFTaLEFTWARDS_TRIANGLE-HEADED_ARROW_WITH_HEAVY_SHAFT
    aUPWARDS_TRIANGLE-HEADED_ARROW_WITH_HEAVY_SHAFTaRIGHTWARDS_TRIANGLE-HEADED_ARROW_WITH_HEAVY_SHAFT
    aDOWNWARDS_TRIANGLE-HEADED_ARROW_WITH_HEAVY_SHAFTaLEFTWARDS_TRIANGLE-HEADED_ARROW_WITH_VERY_HEAVY_SHAFT
    aUPWARDS_TRIANGLE-HEADED_ARROW_WITH_VERY_HEAVY_SHAFTaRIGHTWARDS_TRIANGLE-HEADED_ARROW_WITH_VERY_HEAVY_SHAFT
    aDOWNWARDS_TRIANGLE-HEADED_ARROW_WITH_VERY_HEAVY_SHAFTaLEFTWARDS_FINGER-POST_ARROWaUPWARDS_FINGER-POST_ARROW
    aRIGHTWARDS_FINGER-POST_ARROWaDOWNWARDS_FINGER-POST_ARROWaLEFTWARDS_SQUARED_ARROWaUPWARDS_SQUARED_ARROW
    aRIGHTWARDS_SQUARED_ARROWaDOWNWARDS_SQUARED_ARROWaLEFTWARDS_COMPRESSED_ARROWaUPWARDS_COMPRESSED_ARROW
    aRIGHTWARDS_COMPRESSED_ARROWaDOWNWARDS_COMPRESSED_ARROWaLEFTWARDS_HEAVY_COMPRESSED_ARROW
    aUPWARDS_HEAVY_COMPRESSED_ARROWaRIGHTWARDS_HEAVY_COMPRESSED_ARROWaDOWNWARDS_HEAVY_COMPRESSED_ARROW
    aLEFTWARDS_HEAVY_ARROWaUPWARDS_HEAVY_ARROWaRIGHTWARDS_HEAVY_ARROWaDOWNWARDS_HEAVY_ARROW
    :1F850aLEFTWARDS_SANS-SERIF_ARROWaUPWARDS_SANS-SERIF_ARROWaRIGHTWARDS_SANS-SERIF_ARROW
    aDOWNWARDS_SANS-SERIF_ARROWaNORTH_WEST_SANS-SERIF_ARROWbEAST_SANS-SERIF_ARROWaSOUTH_EAST_SANS-SERIF_ARROW
    bWEST_SANS-SERIF_ARROWaLEFT_RIGHT_SANS-SERIF_ARROWaUP_DOWN_SANS-SERIF_ARROW
    :1F860aWIDE-HEADED_LEFTWARDS_LIGHT_BARB_ARROWbUPWARDS_LIGHT_BARB_ARROWbRIGHTWARDS_LIGHT_BARB_ARROW
    bDOWNWARDS_LIGHT_BARB_ARROWbNORTH_WEST_LIGHT_BARB_ARROWcEAST_LIGHT_BARB_ARROWbSOUTH_EAST_LIGHT_BARB_ARROW
    cWEST_LIGHT_BARB_ARROWbLEFTWARDS_BARB_ARROWbUPWARDS_BARB_ARROWbRIGHTWARDS_BARB_ARROWbDOWNWARDS_BARB_ARROW
    bNORTH_WEST_BARB_ARROWcEAST_BARB_ARROWbSOUTH_EAST_BARB_ARROWcWEST_BARB_ARROWbLEFTWARDS_MEDIUM_BARB_ARROW
    bUPWARDS_MEDIUM_BARB_ARROWbRIGHTWARDS_MEDIUM_BARB_ARROWbDOWNWARDS_MEDIUM_BARB_ARROWbNORTH_WEST_MEDIUM_BARB_ARROW
    cEAST_MEDIUM_BARB_ARROWbSOUTH_EAST_MEDIUM_BARB_ARROWcWEST_MEDIUM_BARB_ARROWbLEFTWARDS_HEAVY_BARB_ARROW
    bUPWARDS_HEAVY_BARB_ARROWbRIGHTWARDS_HEAVY_BARB_ARROWbDOWNWARDS_HEAVY_BARB_ARROWbNORTH_WEST_HEAVY_BARB_ARROW
    cEAST_HEAVY_BARB_ARROWbSOUTH_EAST_HEAVY_BARB_ARROWcWEST_HEAVY_BARB_ARROWbLEFTWARDS_VERY_HEAVY_BARB_ARROW
    bUPWARDS_VERY_HEAVY_BARB_ARROWbRIGHTWARDS_VERY_HEAVY_BARB_ARROWbDOWNWARDS_VERY_HEAVY_BARB_ARROW
    bNORTH_WEST_VERY_HEAVY_BARB_ARROWcEAST_VERY_HEAVY_BARB_ARROWbSOUTH_EAST_VERY_HEAVY_BARB_ARROW
    cWEST_VERY_HEAVY_BARB_ARROW:1F890aLEFTWARDS_TRIANGLE_ARROWHEADaUPWARDS_TRIANGLE_ARROWHEAD
    aRIGHTWARDS_TRIANGLE_ARROWHEADaDOWNWARDS_TRIANGLE_ARROWHEADaLEFTWARDS_WHITE_ARROW_WITHIN_TRIANGLE_ARROWHEAD
    aUPWARDS_WHITE_ARROW_WITHIN_TRIANGLE_ARROWHEADaRIGHTWARDS_WHITE_ARROW_WITHIN_TRIANGLE_ARROWHEAD
    aDOWNWARDS_WHITE_ARROW_WITHIN_TRIANGLE_ARROWHEADaLEFTWARDS_ARROW_WITH_NOTCHED_TAIL
    aUPWARDS_ARROW_WITH_NOTCHED_TAILaRIGHTWARDS_ARROW_WITH_NOTCHED_TAILaDOWNWARDS_ARROW_WITH_NOTCHED_TAIL
    aHEAVY_ARROW_SHAFT_WIDTH_ONEeTWO_THIRDSeONE_HALFfTHIRDaLEFTWARDS_BOTTOM-SHADED_WHITE_ARROW
    aRIGHTWARDS_BOTTOM_SHADED_WHITE_ARROWaLEFTWARDS_TOP_SHADED_WHITE_ARROWaRIGHTWARDS_TOP_SHADED_WHITE_ARROW
    aLEFTWARDS_LEFT-SHADED_WHITE_ARROWaRIGHTWARDS_RIGHT-SHADED_WHITE_ARROWaLEFTWARDS_RIGHT-SHADED_WHITE_ARROW
    aRIGHTWARDS_LEFT-SHADED_WHITE_ARROWaLEFTWARDS_BACK-TILTED_SHADOWED_WHITE_ARROW
    aRIGHTWARDS_BACK-TILTED_SHADOWED_WHITE_ARROWaLEFTWARDS_FRONT-TILTED_SHADOWED_WHITE_ARROW
    aRIGHTWARDS_FRONT-TILTED_SHADOWED_WHITE_ARROWaWHITE_ARROW_SHAFT_WIDTH_ONEeTWO_THIRDS
    :1F8B0aARROW_POINTING_UPWARDS_THEN_NORTH_WESTcRIGHTWARDS_THEN_CURVING_SOUTH_WEST
    :1F900aCIRCLED_CROSS_FORMEE_WITH_FOUR_DOTSeTWO_DOTScFORMEEaLEFT_HALF_CIRCLE_WITH_FOUR_DOTSeTHREE_DOTSeTWO_DOTS
    eDOTcCIRCLEaDOWNWARD_FACING_HOOKcNOTCHED_HOOKcHOOK_WITH_DOTcNOTCHED_HOOK_WITH_DOTaPINCHED_FINGERSaWHITE_HEART
    aBROWN_HEARTaPINCHING_HANDaZIPPER-MOUTH_FACEaMONEY-MOUTH_FACEaFACE_WITH_THERMOMETERaNERD_FACEaTHINKING_FACE
    aFACE_WITH_HEAD-BANDAGEaROBOT_FACEaHUGGING_FACEaSIGN_OF_THE_HORNSaCALL_ME_HANDaRAISED_BACK_OF_HAND
    aLEFT-FACING_FISTaRIGHT-FACING_FISTaHANDSHAKEaHAND_WITH_INDEX_AND_MIDDLE_FINGERS_CROSSEDaI_LOVE_YOU_HAND_SIGN
    aFACE_WITH_COWBOY_HATaCLOWN_FACEaNAUSEATED_FACEaROLLING_ON_THE_FLOOR_LAUGHINGaDROOLING_FACEaLYING_FACEaFACE_PALM
    aSNEEZING_FACEaFACE_WITH_ONE_EYEBROW_RAISEDaGRINNING_FACE_WITH_STAR_EYESdONE_LARGE_AND_ONE_SMALL_EYE
    aFACE_WITH_FINGER_COVERING_CLOSED_LIPSaSERIOUS_FACE_WITH_SYMBOLS_COVERING_MOUTH
    aSMILING_FACE_WITH_SMILING_EYES_AND_HAND_COVERING_MOUTHaFACE_WITH_OPEN_MOUTH_VOMITING
    aSHOCKED_FACE_WITH_EXPLODING_HEADaPREGNANT_WOMANaBREAST-FEEDINGaPALMS_UP_TOGETHERaSELFIEaPRINCEaMAN_IN_TUXEDO
    aMOTHER_CHRISTMASaSHRUGaPERSON_DOING_CARTWHEELaJUGGLINGaFENCERaMODERN_PENTATHLONaWRESTLERSaWATER_POLOaHANDBALL
    aDIVING_MASKaWILTED_FLOWERaDRUM_WITH_DRUMSTICKSaCLINKING_GLASSESaTUMBLER_GLASSaSPOONaGOAL_NETaRIFLE
    aFIRST_PLACE_MEDALaSECOND_PLACE_MEDALaTHIRD_PLACE_MEDALaBOXING_GLOVEaMARTIAL_ARTS_UNIFORMaCURLING_STONE
    aLACROSSE_STICK_AND_BALLaSOFTBALLaFLYING_DISCaCROISSANTaAVOCADOaCUCUMBERaBACONaPOTATOaCARROTaBAGUETTE_BREAD
    aGREEN_SALADaSHALLOW_PAN_OF_FOODaSTUFFED_FLATBREADaEGGaGLASS_OF_MILKaPEANUTSaKIWIFRUITaPANCAKESaDUMPLING
    aFORTUNE_COOKIEaTAKEOUT_BOXaCHOPSTICKSaBOWL_WITH_SPOONaCUP_WITH_STRAWaCOCONUTaBROCCOLIaPIEaPRETZELaCUT_OF_MEAT
    aSANDWICHaCANNED_FOODaLEAFY_GREENaMANGOaMOON_CAKEaBAGELaSMILING_FACE_WITH_SMILING_EYES_AND_THREE_HEARTS
    aYAWNING_FACEaSMILING_FACE_WITH_TEARaFACE_WITH_PARTY_HORN_AND_PARTY_HATcUNEVEN_EYES_AND_WAVY_MOUTH
    aOVERHEATED_FACEaFREEZING_FACEaNINJAaDISGUISED_FACEaFACE_HOLDING_BACK_TEARSbWITH_PLEADING_EYESaSARIaLAB_COAT
    aGOGGLESaHIKING_BOOTaFLAT_SHOEaCRABaLION_FACEaSCORPIONaTURKEYaUNICORN_FACEaEAGLEaDUCKaBATaSHARKaOWLaFOX_FACE
    aBUTTERFLYaDEERaGORILLAaLIZARDaRHINOCEROSaSHRIMPaSQUIDaGIRAFFE_FACEaZEBRA_FACEaHEDGEHOGaSAUROPODaT-REXaCRICKET
    aKANGAROOaLLAMAaPEACOCKaHIPPOPOTAMUSaPARROTaRACCOONaLOBSTERaMOSQUITOaMICROBEaBADGERaSWANaMAMMOTHaDODOaSLOTH
    aOTTERaORANGUTANaSKUNKaFLAMINGOaOYSTERaBEAVERaBISONaSEALaGUIDE_DOGaPROBING_CANEaEMOJI_COMPONENT_RED_HAIR
    cCURLY_HAIRcBALDcWHITE_HAIRaBONEaLEGaFOOTaTOOTHaSUPERHEROaSUPERVILLAINaSAFETY_VESTaEAR_WITH_HEARING_AID
    aMOTORIZED_WHEELCHAIRaMANUAL_WHEELCHAIRaMECHANICAL_ARMbLEGaCHEESE_WEDGEaCUPCAKEaSALT_SHAKERaBEVERAGE_BOXaGARLIC
    aONIONaFALAFELaWAFFLEaBUTTERaMATE_DRINKaICE_CUBEaBUBBLE_TEAaTROLLaSTANDING_PERSONaKNEELING_PERSONaDEAF_PERSON
    aFACE_WITH_MONOCLEaADULTaCHILDaOLDER_ADULTaBEARDED_PERSONaPERSON_WITH_HEADSCARFbIN_STEAMY_ROOMbCLIMBING
    bIN_LOTUS_POSITIONaMAGEaFAIRYaVAMPIREaMERPERSONaELFaGENIEaZOMBIEaBRAINaORANGE_HEARTaBILLED_CAPaSCARFaGLOVESaCOAT
    aSOCKSaRED_GIFT_ENVELOPEaFIRECRACKERaJIGSAW_PUZZLE_PIECEaTEST_TUBEaPETRI_DISHaDNA_DOUBLE_HELIXaCOMPASSaABACUS
    aFIRE_EXTINGUISHERaTOOLBOXaBRICKaMAGNETaLUGGAGEaLOTION_BOTTLEaSPOOL_OF_THREADaBALL_OF_YARNaSAFETY_PINaTEDDY_BEAR
    aBROOMaBASKETaROLL_OF_PAPERaBAR_OF_SOAPaSPONGEaRECEIPTaNAZAR_AMULETaNEUTRAL_CHESS_KINGcQUEENcROOKcBISHOPcKNIGHT
    cPAWNaWHITE_CHESS_KNIGHT_ROTATED_FORTY-FIVE_DEGREESaBLACK_CHESS_KNIGHT_ROTATED_FORTY-FIVE_DEGREES
    aNEUTRAL_CHESS_KNIGHT_ROTATED_FORTY-FIVE_DEGREESaWHITE_CHESS_KING_ROTATED_NINETY_DEGREES
    cQUEEN_ROTATED_NINETY_DEGREEScROOK_ROTATED_NINETY_DEGREEScBISHOP_ROTATED_NINETY_DEGREES
    cKNIGHT_ROTATED_NINETY_DEGREEScPAWN_ROTATED_NINETY_DEGREESaBLACK_CHESS_KING_ROTATED_NINETY_DEGREES
    cQUEEN_ROTATED_NINETY_DEGREEScROOK_ROTATED_NINETY_DEGREEScBISHOP_ROTATED_NINETY_DEGREES
    cKNIGHT_ROTATED_NINETY_DEGREEScPAWN_ROTATED_NINETY_DEGREESaNEUTRAL_CHESS_KING_ROTATED_NINETY_DEGREES
    cQUEEN_ROTATED_NINETY_DEGREEScROOK_ROTATED_NINETY_DEGREEScBISHOP_ROTATED_NINETY_DEGREES
    cKNIGHT_ROTATED_NINETY_DEGREEScPAWN_ROTATED_NINETY_DEGREES
    aWHITE_CHESS_KNIGHT_ROTATED_ONE_HUNDRED_THIRTY-FIVE_DEGREES
    aBLACK_CHESS_KNIGHT_ROTATED_ONE_HUNDRED_THIRTY-FIVE_DEGREES
    aNEUTRAL_CHESS_KNIGHT_ROTATED_ONE_HUNDRED_THIRTY-FIVE_DEGREESaWHITE_CHESS_TURNED_KINGdQUEENdROOKdBISHOPdKNIGHT
    dPAWNaBLACK_CHESS_TURNED_KINGdQUEENdROOKdBISHOPdKNIGHTdPAWNaNEUTRAL_CHESS_TURNED_KINGdQUEENdROOKdBISHOPdKNIGHT
    dPAWNaWHITE_CHESS_KNIGHT_ROTATED_TWO_HUNDRED_TWENTY-FIVE_DEGREES
    aBLACK_CHESS_KNIGHT_ROTATED_TWO_HUNDRED_TWENTY-FIVE_DEGREES
    aNEUTRAL_CHESS_KNIGHT_ROTATED_TWO_HUNDRED_TWENTY-FIVE_DEGREES
    aWHITE_CHESS_KING_ROTATED_TWO_HUNDRED_SEVENTY_DEGREEScQUEEN_ROTATED_TWO_HUNDRED_SEVENTY_DEGREES
    cROOK_ROTATED_TWO_HUNDRED_SEVENTY_DEGREEScBISHOP_ROTATED_TWO_HUNDRED_SEVENTY_DEGREES
    cKNIGHT_ROTATED_TWO_HUNDRED_SEVENTY_DEGREEScPAWN_ROTATED_TWO_HUNDRED_SEVENTY_DEGREES
    aBLACK_CHESS_KING_ROTATED_TWO_HUNDRED_SEVENTY_DEGREEScQUEEN_ROTATED_TWO_HUNDRED_SEVENTY_DEGREES
    cROOK_ROTATED_TWO_HUNDRED_SEVENTY_DEGREEScBISHOP_ROTATED_TWO_HUNDRED_SEVENTY_DEGREES
    cKNIGHT_ROTATED_TWO_HUNDRED_SEVENTY_DEGREEScPAWN_ROTATED_TWO_HUNDRED_SEVENTY_DEGREES
    aNEUTRAL_CHESS_KING_ROTATED_TWO_HUNDRED_SEVENTY_DEGREEScQUEEN_ROTATED_TWO_HUNDRED_SEVENTY_DEGREES
    cROOK_ROTATED_TWO_HUNDRED_SEVENTY_DEGREEScBISHOP_ROTATED_TWO_HUNDRED_SEVENTY_DEGREES
    cKNIGHT_ROTATED_TWO_HUNDRED_SEVENTY_DEGREEScPAWN_ROTATED_TWO_HUNDRED_SEVENTY_DEGREES
    aWHITE_CHESS_KNIGHT_ROTATED_THREE_HUNDRED_FIFTEEN_DEGREES
    aBLACK_CHESS_KNIGHT_ROTATED_THREE_HUNDRED_FIFTEEN_DEGREES
    aNEUTRAL_CHESS_KNIGHT_ROTATED_THREE_HUNDRED_FIFTEEN_DEGREESaWHITE_CHESS_EQUIHOPPERaBLACK_CHESS_EQUIHOPPER
    aNEUTRAL_CHESS_EQUIHOPPERaWHITE_CHESS_EQUIHOPPER_ROTATED_NINETY_DEGREES
    aBLACK_CHESS_EQUIHOPPER_ROTATED_NINETY_DEGREESaNEUTRAL_CHESS_EQUIHOPPER_ROTATED_NINETY_DEGREES
    aWHITE_CHESS_KNIGHT-QUEENcKNIGHT-ROOKcKNIGHT-BISHOPaBLACK_CHESS_KNIGHT-QUEENcKNIGHT-ROOKcKNIGHT-BISHOP
    :1FA60aXIANGQI_RED_GENERALcMANDARINcELEPHANTcHORSEcCHARIOTcCANNONcSOLDIERbBLACK_GENERALcMANDARINcELEPHANTcHORSE
    cCHARIOTcCANNONcSOLDIER:1FA70aBALLET_SHOESaONE-PIECE_SWIMSUITaBRIEFSaSHORTSaTHONG_SANDAL:1FA78aDROP_OF_BLOOD
    aADHESIVE_BANDAGEaSTETHOSCOPEaX-RAYaCRUTCH:1FA80aYO-YOaKITEaPARACHUTEaBOOMERANGaMAGIC_WANDaPINATAaNESTING_DOLLS
    :1FA90aRINGED_PLANETaCHAIRaRAZORaAXEaDIYA_LAMPaBANJOaMILITARY_HELMETaACCORDIONaLONG_DRUMaCOINaCARPENTRY_SAW
    aSCREWDRIVERaLADDERaHOOKaMIRRORaWINDOWaPLUNGERaSEWING_NEEDLEaKNOTaBUCKETaMOUSE_TRAPaTOOTHBRUSHaHEADSTONEaPLACARD
    aROCKaMIRROR_BALLaIDENTIFICATION_CARDaLOW_BATTERYaHAMSA:1FAB0aFLYaWORMaBEETLEaCOCKROACHaPOTTED_PLANTaWOOD
    aFEATHERaLOTUSaCORALaEMPTY_NESTaNEST_WITH_EGGS:1FAC0aANATOMICAL_HEARTaLUNGSaPEOPLE_HUGGINGaPREGNANT_MANbPERSON
    aPERSON_WITH_CROWN:1FAD0aBLUEBERRIESaBELL_PEPPERaOLIVEaFLATBREADaTAMALEaFONDUEaTEAPOTaPOURING_LIQUIDaBEANSaJAR
    :1FAE0aMELTING_FACEaSALUTING_FACEaFACE_WITH_OPEN_EYES_AND_HAND_OVER_MOUTHcPEEKING_EYEcDIAGONAL_MOUTH
    aDOTTED_LINE_FACEaBITING_LIPaBUBBLES:1FAF0aHAND_WITH_INDEX_FINGER_AND_THUMB_CROSSEDaRIGHTWARDS_HAND
    aLEFTWARDS_HANDaPALM_DOWN_HANDbUP_HANDaINDEX_POINTING_AT_THE_VIEWERaHEART_HANDS:1FB00aBLOCK_SEXTANT-1bSEXTANT-2
    bSEXTANT-12bSEXTANT-3bSEXTANT-13bSEXTANT-23bSEXTANT-123bSEXTANT-4bSEXTANT-14bSEXTANT-24bSEXTANT-124bSEXTANT-34
    bSEXTANT-134bSEXTANT-234bSEXTANT-1234bSEXTANT-5bSEXTANT-15bSEXTANT-25bSEXTANT-125bSEXTANT-35bSEXTANT-235
    bSEXTANT-1235bSEXTANT-45bSEXTANT-145bSEXTANT-245bSEXTANT-1245bSEXTANT-345bSEXTANT-1345bSEXTANT-2345
    bSEXTANT-12345bSEXTANT-6bSEXTANT-16bSEXTANT-26bSEXTANT-126bSEXTANT-36bSEXTANT-136bSEXTANT-236bSEXTANT-1236
    bSEXTANT-46bSEXTANT-146bSEXTANT-1246bSEXTANT-346bSEXTANT-1346bSEXTANT-2346bSEXTANT-12346bSEXTANT-56bSEXTANT-156
    bSEXTANT-256bSEXTANT-1256bSEXTANT-356bSEXTANT-1356bSEXTANT-2356bSEXTANT-12356bSEXTANT-456bSEXTANT-1456
    bSEXTANT-2456bSEXTANT-12456bSEXTANT-3456bSEXTANT-13456bSEXTANT-23456
    aLOWER_LEFT_BLOCK_DIAGONAL_LOWER_MIDDLE_LEFT_TO_LOWER_CENTREjRIGHTeUPPER_MIDDLE_LEFT_TO_LOWER_CENTREjRIGHT
    fLEFT_TO_LOWER_CENTREbRIGHT_BLOCK_DIAGONAL_UPPER_MIDDLE_LEFT_TO_UPPER_CENTREjRIGHT
    eLOWER_MIDDLE_LEFT_TO_UPPER_CENTREjRIGHTfLEFT_TO_UPPER_CENTREfMIDDLE_LEFT_TO_UPPER_MIDDLE_RIGHT
    fCENTRE_TO_LOWER_MIDDLE_RIGHTfLEFT_TO_LOWER_MIDDLE_RIGHTfCENTRE_TO_UPPER_MIDDLE_RIGHTfLEFT_TO_UPPER_MIDDLE_RIGHT
    fCENTRE_TO_UPPER_RIGHTbLEFT_BLOCK_DIAGONAL_UPPER_CENTRE_TO_UPPER_MIDDLE_RIGHTfLEFT_TO_UPPER_MIDDLE_RIGHT
    fCENTRE_TO_LOWER_MIDDLE_RIGHTfLEFT_TO_LOWER_MIDDLE_RIGHTfCENTRE_TO_LOWER_RIGHTfMIDDLE_LEFT_TO_LOWER_MIDDLE_RIGHT
    aUPPER_RIGHT_BLOCK_DIAGONAL_LOWER_MIDDLE_LEFT_TO_LOWER_CENTREjRIGHTeUPPER_MIDDLE_LEFT_TO_LOWER_CENTREjRIGHT
    fLEFT_TO_LOWER_CENTREbLEFT_BLOCK_DIAGONAL_UPPER_MIDDLE_LEFT_TO_UPPER_CENTREjRIGHT
    eLOWER_MIDDLE_LEFT_TO_UPPER_CENTREjRIGHTfLEFT_TO_UPPER_CENTREfMIDDLE_LEFT_TO_UPPER_MIDDLE_RIGHT
    fCENTRE_TO_LOWER_MIDDLE_RIGHTfLEFT_TO_LOWER_MIDDLE_RIGHTfCENTRE_TO_UPPER_MIDDLE_RIGHTfLEFT_TO_UPPER_MIDDLE_RIGHT
    fCENTRE_TO_UPPER_RIGHTbRIGHT_BLOCK_DIAGONAL_UPPER_CENTRE_TO_UPPER_MIDDLE_RIGHTfLEFT_TO_UPPER_MIDDLE_RIGHT
    fCENTRE_TO_LOWER_MIDDLE_RIGHTfLEFT_TO_LOWER_MIDDLE_RIGHTfCENTRE_TO_LOWER_RIGHTfMIDDLE_LEFT_TO_LOWER_MIDDLE_RIGHT
    bAND_RIGHT_AND_LOWER_TRIANGULAR_THREE_QUARTERS_BLOCKaLEFT_AND_LOWER_AND_RIGHT_TRIANGULAR_THREE_QUARTERS_BLOCK
    aUPPER_AND_LEFT_AND_LOWER_TRIANGULAR_THREE_QUARTERS_BLOCK
    aLEFT_AND_UPPER_AND_RIGHT_TRIANGULAR_THREE_QUARTERS_BLOCKbTRIANGULAR_ONE_QUARTER_BLOCK
    aUPPER_TRIANGULAR_ONE_QUARTER_BLOCKaRIGHT_TRIANGULAR_ONE_QUARTER_BLOCKaLOWER_TRIANGULAR_ONE_QUARTER_BLOCK
    aVERTICAL_ONE_EIGHTH_BLOCK-2dBLOCK-3dBLOCK-4dBLOCK-5dBLOCK-6dBLOCK-7aHORIZONTAL_ONE_EIGHTH_BLOCK-2dBLOCK-3
    dBLOCK-4dBLOCK-5dBLOCK-6dBLOCK-7aLEFT_AND_LOWER_ONE_EIGHTH_BLOCKcUPPER_ONE_EIGHTH_BLOCK
    aRIGHT_AND_UPPER_ONE_EIGHTH_BLOCKcLOWER_ONE_EIGHTH_BLOCKaUPPER_AND_LOWER_ONE_EIGHTH_BLOCK
    aHORIZONTAL_ONE_EIGHTH_BLOCK-1358aUPPER_ONE_QUARTER_BLOCKbTHREE_EIGHTHS_BLOCKbFIVE_EIGHTHS_BLOCK
    bTHREE_QUARTERS_BLOCKbSEVEN_EIGHTHS_BLOCKaRIGHT_ONE_QUARTER_BLOCKbTHREE_EIGHTHS_BLOCKbFIVE_EIGHTHS_BLOCK
    bTHREE_QUARTERS_BLOCKbSEVEN_EIGHTHS_BLOCKaLEFT_HALF_MEDIUM_SHADEaRIGHT_HALF_MEDIUM_SHADEaUPPER_HALF_MEDIUM_SHADE
    aLOWER_HALF_MEDIUM_SHADEaINVERSE_MEDIUM_SHADEaUPPER_HALF_BLOCK_AND_LOWER_HALF_INVERSE_MEDIUM_SHADE
    cINVERSE_MEDIUM_SHADE_AND_LOWER_HALF_BLOCK:1FB94aLEFT_HALF_INVERSE_MEDIUM_SHADE_AND_RIGHT_HALF_BLOCK
    aCHECKER_BOARD_FILLaINVERSE_CHECKER_BOARD_FILLaHEAVY_HORIZONTAL_FILLaUPPER_LEFT_TO_LOWER_RIGHT_FILL
    bRIGHT_TO_LOWER_LEFT_FILLbAND_LOWER_TRIANGULAR_HALF_BLOCKaLEFT_AND_RIGHT_TRIANGULAR_HALF_BLOCK
    aUPPER_LEFT_TRIANGULAR_MEDIUM_SHADEbRIGHT_TRIANGULAR_MEDIUM_SHADEaLOWER_RIGHT_TRIANGULAR_MEDIUM_SHADE
    bLEFT_TRIANGULAR_MEDIUM_SHADEaBOX_DRAWINGS_LIGHT_DIAGONAL_UPPER_CENTRE_TO_MIDDLE_LEFTiRIGHT
    eMIDDLE_LEFT_TO_LOWER_CENTREfRIGHT_TO_LOWER_CENTREeUPPER_CENTRE_TO_MIDDLE_LEFT_TO_LOWER_CENTRE
    iRIGHT_TO_LOWER_CENTREeMIDDLE_LEFT_TO_LOWER_CENTRE_TO_MIDDLE_RIGHThUPPER_CENTRE_TO_MIDDLE_RIGHT
    eUPPER_CENTRE_TO_MIDDLE_LEFT_AND_MIDDLE_RIGHT_TO_LOWER_CENTREiRIGHT_AND_MIDDLE_LEFT_TO_LOWER_CENTRE
    jTO_LOWER_CENTRE_TO_MIDDLE_LEFTiLEFT_TO_LOWER_CENTRE_TO_MIDDLE_RIGHT
    eMIDDLE_LEFT_TO_UPPER_CENTRE_TO_MIDDLE_RIGHT_TO_LOWER_CENTRE
    fRIGHT_TO_UPPER_CENTRE_TO_MIDDLE_LEFT_TO_LOWER_CENTREeDIAMONDdHORIZONTAL_WITH_VERTICAL_STROKE
    aARROWHEAD-SHAPED_POINTERaINVERSE_CHECK_MARKaLEFT_HALF_RUNNING_MANaRIGHT_HALF_RUNNING_MAN
    aINVERSE_DOWNWARDS_ARROW_WITH_TIP_LEFTWARDSaLEFTWARDS_ARROW_AND_UPPER_AND_LOWER_ONE_EIGHTH_BLOCK
    aRIGHTWARDS_ARROW_AND_UPPER_AND_LOWER_ONE_EIGHTH_BLOCKaDOWNWARDS_ARROW_AND_RIGHT_ONE_EIGHTH_BLOCK
    aUPWARDS_ARROW_AND_RIGHT_ONE_EIGHTH_BLOCKaLEFT_HALF_FOLDERaRIGHT_HALF_FOLDERaVOIDED_GREEK_CROSS
    aRIGHT_OPEN_SQUARED_DOTaNEGATIVE_DIAGONAL_CROSScMIDDLE_RIGHT_TO_LOWER_CENTREcDIAMOND
    aWHITE_HEAVY_SALTIRE_WITH_ROUNDED_CORNERSaLEFT_THIRD_WHITE_RIGHT_POINTING_INDEX
    aMIDDLE_THIRD_WHITE_RIGHT_POINTING_INDEXaRIGHT_THIRD_WHITE_RIGHT_POINTING_INDEXaNEGATIVE_SQUARED_QUESTION_MARK
    aSTICK_FIGUREcWITH_ARMS_RAISEDcLEANING_LEFTdRIGHTcWITH_DRESSaWHITE_UP-POINTING_CHEVRON
    :1FBF0aSEGMENTED_DIGIT_ZEROcONEcTWOcTHREEcFOURcFIVEcSIXcSEVENcEIGHTcNINE:E0001aLANGUAGE_TAG:E0020aTAG_SPACE
    bEXCLAMATION_MARKbQUOTATION_MARKbNUMBER_SIGNbDOLLAR_SIGNbPERCENT_SIGNbAMPERSANDbAPOSTROPHEbLEFT_PARENTHESIS
    bRIGHT_PARENTHESISbASTERISKbPLUS_SIGNbCOMMAbHYPHEN-MINUSbFULL_STOPbSOLIDUSbDIGIT_ZEROcONEcTWOcTHREEcFOURcFIVE
    cSIXcSEVENcEIGHTcNINEbCOLONbSEMICOLONbLESS-THAN_SIGNbEQUALS_SIGNbGREATER-THAN_SIGNbQUESTION_MARKbCOMMERCIAL_AT
    bLATIN_CAPITAL_LETTER_AeBeCeDeEeFeGeHeIeJeKeLeMeNeOePeQeReSeTeUeVeWeXeYeZbLEFT_SQUARE_BRACKETbREVERSE_SOLIDUS
    bRIGHT_SQUARE_BRACKETbCIRCUMFLEX_ACCENTbLOW_LINEbGRAVE_ACCENTbLATIN_SMALL_LETTER_AeBeCeDeEeFeGeHeIeJeKeLeMeNeOeP
    eQeReSeTeUeVeWeXeYeZbLEFT_CURLY_BRACKETbVERTICAL_LINEbRIGHT_CURLY_BRACKETbTILDEaCANCEL_TAG
    :E0100aVARIATION_SELECTOR-17bSELECTOR-18bSELECTOR-19bSELECTOR-20bSELECTOR-21bSELECTOR-22bSELECTOR-23bSELECTOR-24
    bSELECTOR-25bSELECTOR-26bSELECTOR-27bSELECTOR-28bSELECTOR-29bSELECTOR-30bSELECTOR-31bSELECTOR-32bSELECTOR-33
    bSELECTOR-34bSELECTOR-35bSELECTOR-36bSELECTOR-37bSELECTOR-38bSELECTOR-39bSELECTOR-40bSELECTOR-41bSELECTOR-42
    bSELECTOR-43bSELECTOR-44bSELECTOR-45bSELECTOR-46bSELECTOR-47bSELECTOR-48bSELECTOR-49bSELECTOR-50bSELECTOR-51
    bSELECTOR-52bSELECTOR-53bSELECTOR-54bSELECTOR-55bSELECTOR-56bSELECTOR-57bSELECTOR-58bSELECTOR-59bSELECTOR-60
    bSELECTOR-61bSELECTOR-62bSELECTOR-63bSELECTOR-64bSELECTOR-65bSELECTOR-66bSELECTOR-67bSELECTOR-68bSELECTOR-69
    bSELECTOR-70bSELECTOR-71bSELECTOR-72bSELECTOR-73bSELECTOR-74bSELECTOR-75bSELECTOR-76bSELECTOR-77bSELECTOR-78
    bSELECTOR-79bSELECTOR-80bSELECTOR-81bSELECTOR-82bSELECTOR-83bSELECTOR-84bSELECTOR-85bSELECTOR-86bSELECTOR-87
    bSELECTOR-88bSELECTOR-89bSELECTOR-90bSELECTOR-91bSELECTOR-92bSELECTOR-93bSELECTOR-94bSELECTOR-95bSELECTOR-96
    bSELECTOR-97bSELECTOR-98bSELECTOR-99bSELECTOR-100bSELECTOR-101bSELECTOR-102bSELECTOR-103bSELECTOR-104
    bSELECTOR-105bSELECTOR-106bSELECTOR-107bSELECTOR-108bSELECTOR-109bSELECTOR-110bSELECTOR-111bSELECTOR-112
    bSELECTOR-113bSELECTOR-114bSELECTOR-115bSELECTOR-116bSELECTOR-117bSELECTOR-118bSELECTOR-119bSELECTOR-120
    bSELECTOR-121bSELECTOR-122bSELECTOR-123bSELECTOR-124bSELECTOR-125bSELECTOR-126bSELECTOR-127bSELECTOR-128
    bSELECTOR-129bSELECTOR-130bSELECTOR-131bSELECTOR-132bSELECTOR-133bSELECTOR-134bSELECTOR-135bSELECTOR-136
    bSELECTOR-137bSELECTOR-138bSELECTOR-139bSELECTOR-140bSELECTOR-141bSELECTOR-142bSELECTOR-143bSELECTOR-144
    bSELECTOR-145bSELECTOR-146bSELECTOR-147bSELECTOR-148bSELECTOR-149bSELECTOR-150bSELECTOR-151bSELECTOR-152
    bSELECTOR-153bSELECTOR-154bSELECTOR-155bSELECTOR-156bSELECTOR-157bSELECTOR-158bSELECTOR-159bSELECTOR-160
    bSELECTOR-161bSELECTOR-162bSELECTOR-163bSELECTOR-164bSELECTOR-165bSELECTOR-166bSELECTOR-167bSELECTOR-168
    bSELECTOR-169bSELECTOR-170bSELECTOR-171bSELECTOR-172bSELECTOR-173bSELECTOR-174bSELECTOR-175bSELECTOR-176
    bSELECTOR-177bSELECTOR-178bSELECTOR-179bSELECTOR-180bSELECTOR-181bSELECTOR-182bSELECTOR-183bSELECTOR-184
    bSELECTOR-185bSELECTOR-186bSELECTOR-187bSELECTOR-188bSELECTOR-189bSELECTOR-190bSELECTOR-191bSELECTOR-192
    bSELECTOR-193bSELECTOR-194bSELECTOR-195bSELECTOR-196bSELECTOR-197bSELECTOR-198bSELECTOR-199bSELECTOR-200
    bSELECTOR-201bSELECTOR-202bSELECTOR-203bSELECTOR-204bSELECTOR-205bSELECTOR-206bSELECTOR-207bSELECTOR-208
    bSELECTOR-209bSELECTOR-210bSELECTOR-211bSELECTOR-212bSELECTOR-213bSELECTOR-214bSELECTOR-215bSELECTOR-216
    bSELECTOR-217bSELECTOR-218bSELECTOR-219bSELECTOR-220bSELECTOR-221bSELECTOR-222bSELECTOR-223bSELECTOR-224
    bSELECTOR-225bSELECTOR-226bSELECTOR-227bSELECTOR-228bSELECTOR-229bSELECTOR-230bSELECTOR-231bSELECTOR-232
    bSELECTOR-233bSELECTOR-234bSELECTOR-235bSELECTOR-236bSELECTOR-237bSELECTOR-238bSELECTOR-239bSELECTOR-240
    bSELECTOR-241bSELECTOR-242bSELECTOR-243bSELECTOR-244bSELECTOR-245bSELECTOR-246bSELECTOR-247bSELECTOR-248
    bSELECTOR-249bSELECTOR-250bSELECTOR-251bSELECTOR-252bSELECTOR-253bSELECTOR-254bSELECTOR-255bSELECTOR-256"

end NullContract.CharName
